import Coldsnap.Artifact.RoundTrip
import Coldsnap.Foundation.Respects

/-! # A capture over an existing artifact

Two files are published by two renames. A capture which is stopped between them
leaves the new blob under the old manifest.
-/

namespace Coldsnap.Artifact

open Python Program Crc32 Sha256 Chunks List Checked Bytes

/-! ## What a restore sees of a directory -/

def File.content (file : File) : List UInt8 := slice file.byte 0 file.size

def File.bytesOnly (file : File) : File where
  size := file.size
  byte position := if 0 ≤ position ∧ position < file.size then file.byte position else 0
  document := none

def File.documentOnly (file : File) : File := ⟨0, fun _ => 0, file.document⟩

def World.visible (world : World) : World :=
  { world with
    files := fun path => match path with
      | .manifest => (world.files .manifest).map File.documentOnly
      | .blob => (world.files .blob).map File.bytesOnly
      | _ => none }

variable (world : World)

theorem World.visible_manifest :
    world.visible.files .manifest = (world.files .manifest).map File.documentOnly := rfl

theorem World.visible_blob :
    world.visible.files .blob = (world.files .blob).map File.bytesOnly := rfl

theorem World.visible_store (pointer : Int) (bytes : List UInt8) :
    world.visible.store pointer bytes = (world.store pointer bytes).visible := rfl

/-- Reading inside a file shows bytes which are visible. -/
theorem slice_bytesOnly (file : File) {position : Int} {count : Nat} (first : 0 ≤ position)
    (inside : position + count ≤ file.size) :
    slice file.bytesOnly.byte position count = slice file.byte position count := by
  apply slice_congr
  intro index bound
  exact if_pos (by omega)

theorem bytesOnly_eq {left right : File} (same : left.content = right.content) :
    left.bytesOnly = right.bytesOnly := by
  have size : left.size = right.size := by
    have lengths := congrArg length same
    simpa [File.content] using lengths
  rw [File.content, File.content, size] at same
  rw [File.bytesOnly, File.bytesOnly, size]
  congr 1
  funext position
  split
  · have byte := eq_of_slice_eq same (show position.toNat < right.size by omega)
    have place : (0 : Int) + (position.toNat : Int) = position := by omega
    rwa [place] at byte
  · rfl

variable {extents : List HydrationExtent}

/-- The native pipeline reads inside the file. -/
theorem hydrateAll_visible (file : File) (preverified : Bool)
    (valid : ∀ extent ∈ extents, 0 ≤ extent.fileOffset ∧ 0 ≤ extent.length) :
    ∀ world : World, hydrateAll file.bytesOnly preverified extents world.visible =
      ((hydrateAll file preverified extents world).1,
        (hydrateAll file preverified extents world).2.visible) := by
  induction extents with
  | nil => exact fun _ => rfl
  | cons extent extents induction =>
    intro world
    have here := valid extent mem_cons_self
    have rest := induction (forall_mem_cons.mp valid).2
    simp only [hydrateAll, show file.bytesOnly.size = file.size from rfl]
    split
    · rfl
    · rw [slice_bytesOnly file here.1 (by omega)]
      rw [World.visible_store]
      split
      · exact rest _
      · rfl

theorem makeExtent_valid {fileOffset destination length : Int} {crc sha : Option String}
    {extent : HydrationExtent}
    (made : makeExtent fileOffset destination length crc sha = .ok extent) :
    0 ≤ extent.fileOffset ∧ 0 ≤ extent.length := by
  simp only [makeExtent, bind_eq_ok, require_eq_ok, pure_eq_ok,
    Bool.and_eq_true, decide_eq_true_eq] at made
  rcases made with ⟨_, ⟨⟨first, _⟩, positive⟩, _, _, _, _, _, _, rfl⟩
  exact ⟨first, by simp only; omega⟩

section Visible

variable {setting : Setting} {α : Type} {view : World → World}

theorem bindLift_respects {β : Type} {computed : Checked α} {next : α → Action β}
    (nextRespects : ∀ value, computed = .ok value → Respects view (next value)) :
    Respects view ((lift computed).bind next) := by
  cases computed with
  | ok value => exact .bindExcept fun _ same => by cases same; exact nextRespects _ rfl
  | error error => exact .bindExcept nofun

variable {label : Label}

theorem act_respects {effect : World → Checked α × World}
    (commutes : ∀ world, effect (view world) = ((effect world).1, view (effect world).2)) :
    Respects view (act label effect) := by
  apply Respects.operation
  intro world
  simp [commutes]

theorem ask_respects {answer : World → Checked α}
    (blind : ∀ world, answer (view world) = answer world) : Respects view (ask label answer) :=
  act_respects fun world => by simp only [blind]

theorem quiet_respects : Respects view (quiet label) :=
  ask_respects fun _ => rfl

theorem catching_respects {kinds : List ErrorKind} {body : Action α} {handler : PyError → Action α}
    (bodyRespects : Respects view body) (handlerRespects : ∀ error, Respects view (handler error)) :
    Respects view (catching kinds body handler) := by
  apply Respects.recover bodyRespects
  intro stop
  cases stop with
  | killed => exact .raise
  | raised error =>
    simp only
    split
    · exact handlerRespects error
    · exact .raise

theorem finallyDo_respects {body : Action α} {cleanup : Action Unit}
    (bodyRespects : Respects view body) (cleanupRespects : Respects view cleanup)
    : Respects view (finallyDo body cleanup) := by
  apply Respects.bind
  · apply Respects.recover bodyRespects
    intro stop
    cases stop with
    | killed => exact .raise
    | raised error => exact .bind cleanupRespects fun _ => .raise
  · intro value
    exact .bind cleanupRespects fun _ => .pure

theorem openForReading_respects {path : Path} (known : path = .manifest ∨ path = .blob) :
    Respects World.visible (openForReading setting path) := by
  apply ask_respects
  intro world
  rcases known with rfl | rfl
  · rw [World.visible_manifest]
    cases world.files .manifest <;> rfl
  · rw [World.visible_blob]
    cases world.files .blob <;> rfl

variable [Builtins]

theorem loadManifest_respects {expected : Option Json} :
    Respects World.visible (loadManifest setting expected none 0) := by
  have reads : Respects World.visible (readManifest setting) := by
    apply Respects.bind (openForReading_respects (.inl rfl))
    intro _
    apply ask_respects
    intro world
    rw [World.visible_manifest]
    cases world.files .manifest <;> rfl
  apply Respects.bind (catching_respects reads fun _ => .raise)
  intro document
  apply bindLift_respects
  intro manifest _
  apply Respects.bind Respects.require
  intro _
  apply Respects.bind Respects.require
  intro _
  have sizes : Respects World.visible (stat setting .blob) := by
    apply ask_respects
    intro world
    rw [World.visible_blob]
    cases world.files .blob <;> rfl
  apply Respects.bind (catching_respects sizes fun _ => .raise)
  intro size
  apply bindLift_respects
  intro blobBytes _
  apply Respects.bind Respects.require
  intro _
  exact .pure

variable {preverified : Bool}

theorem restoreChunk_respects {position pointer : Int} {offset : Json}
    {digest : BitVec 32 × List UInt8} {piece : Nat × Nat} (first : 0 ≤ position) :
    Respects World.visible (restoreChunk setting .blob position offset preverified pointer digest
      piece) := by
  have reads : Respects World.visible (readInto setting .blob (position + piece.1) piece.2) := by
    apply ask_respects
    intro world
    rw [World.visible_blob]
    cases world.files .blob with
    | none => rfl
    | some file =>
      simp only [Option.map_some]
      congr 1
      simp only [show file.bytesOnly.size = file.size from rfl]
      by_cases inside : position + piece.1 ≤ file.size
      · exact slice_bytesOnly file (by omega) (by omega)
      · have none : ((file.size : Int) - (position + piece.1)).toNat = 0 := by omega
        simp [none]
  apply Respects.bind reads
  intro view
  apply Respects.bind Respects.require
  intro _
  apply Respects.bind
  · exact .operation fun _ => rfl
  · intro _
    exact .pure

variable {chunkBytes : Int}

theorem restorePython_respects {resolved : List (Tensor × Dict)} :
    Respects World.visible (restorePython setting .blob 0 chunkBytes preverified resolved) := by
  apply bindLift_respects
  intro sizes _
  apply Respects.bind (catching_respects quiet_respects fun _ => quiet_respects)
  intro _
  apply Respects.bind (openForReading_respects (.inr rfl))
  intro _
  apply Respects.bind
  · apply Respects.foldEach
    intro restored row _
    apply bindLift_respects
    intro remaining _
    apply bindLift_respects
    intro offset _
    apply Respects.bindRequire
    intro first
    apply Respects.bind
    · apply Respects.foldEach
      intro digest piece _
      exact restoreChunk_respects (of_decide_eq_true first)
    · intro digest
      apply Respects.bind
      · apply Respects.onlyIf
        exact .bind Respects.require fun _ => .require
      · intro _
        exact .pure
  · intro restored
    exact .bind quiet_respects fun _ => .pure

omit [Builtins] in
theorem hydrateNativeExtents_respects {backend : String} {queueDepth : Int}
    (valid : ∀ extent ∈ extents, 0 ≤ extent.fileOffset ∧ 0 ≤ extent.length) :
    Respects World.visible (hydrateNativeExtents setting .blob extents backend chunkBytes queueDepth
      preverified) := by
  have groups : ∀ group ∈ extentGroups setting backend extents,
      ∀ extent ∈ group.2, extent ∈ extents := by
    intro group member extent inside
    have optional : ∀ {name : String} {part : List HydrationExtent},
        group ∈ (if part = [] then [] else [(name, part)]) → group.2 = part := by
      intro name part listed
      split at listed
      · cases listed
      · rw [mem_singleton.mp listed]
    unfold extentGroups at member
    split at member
    · rcases mem_append.mp member with first | second
      · rw [optional first] at inside
        split at inside
        · exact mem_of_mem_filter inside
        · cases inside
      · rw [optional second] at inside
        split at inside
        · exact mem_of_mem_filter inside
        · exact inside
    · rw [mem_singleton.mp member] at inside
      exact inside
  apply Respects.foldEach
  intro restored group member
  apply Respects.bind
  · iterate 5
      apply Respects.bind Respects.require
      intro _
    apply Respects.bind
    · apply act_respects
      intro world
      simp only [World.visible_blob]
      cases world.files .blob with
      | none => rfl
      | some file =>
        simp only [Option.map_some]
        rw [hydrateAll_visible file preverified fun extent inside =>
          valid extent (groups group member extent inside)]
    · intro _
      exact .pure
  · intro bytes
    exact .pure

theorem restore_respects {model : Model} {identity : Json} {queueDepth : Int} :
    Respects World.visible (restore setting model identity chunkBytes queueDepth false none 0) := by
  apply Respects.bind Respects.require
  intro _
  apply Respects.bind quiet_respects
  intro _
  apply finallyDo_respects _ quiet_respects
  apply Respects.bind loadManifest_respects
  intro manifest
  apply Respects.bind Respects.pure
  intro _
  apply bindLift_respects
  intro storages _
  apply bindLift_respects
  intro entries _
  apply bindLift_respects
  intro resolved _
  apply Respects.bind
  · unfold restoreBlob
    split
    · apply bindLift_respects
      intro extents made
      apply hydrateNativeExtents_respects
      intro extent member
      have each := (mapEach_eq_ok.mp made).flip
      rcases exists_of_forall₂ each member with ⟨row, _, computed⟩
      simp only [extentOf, bind_eq_ok] at computed
      rcases computed with ⟨_, _, _, _, _, _, _, _, valid⟩
      exact makeExtent_valid valid
    · exact restorePython_respects
  · intro restored
    exact .pure

end Visible

/-! ## Old, new and torn directories -/

section Outcome

variable [Builtins] {setting : Setting} {start : World} {model : Model} {identity : Json}

/-- The directory holds the manifest and the blob it held before, and every process
loads and restores from it as before. -/
structure HoldsOld (start world : World) : Prop where
  manifest : (world.files .manifest).map File.document = (start.files .manifest).map File.document
  blob : (world.files .blob).map File.content = (start.files .blob).map File.content
  loads : ∀ reader expected memory copies schedule,
    (loadManifest reader expected none 0 ⟨memory, world.files, copies⟩ schedule).result =
      (loadManifest reader expected none 0 ⟨memory, start.files, copies⟩ schedule).result
  restores : ∀ reader fresh expected chunkBytes queueDepth memory copies schedule,
    (restore reader fresh expected chunkBytes queueDepth false none 0
      ⟨memory, world.files, copies⟩ schedule).result =
      (restore reader fresh expected chunkBytes queueDepth false none 0
        ⟨memory, start.files, copies⟩ schedule).result

/-- The directory holds what the capture was to write, and every model of the same
layout can be restored from it. -/
structure HoldsNew (setting : Setting) (model : Model) (identity : Json)
    (start world : World) : Prop where
  published : ∃ groups, storageGroups model = .ok groups ∧
    Published setting identity start.memory groups world
  restores : ∀ {reader fresh expected saved tensors} (options : RestoreOptions reader) memory
    copies, registeredCudaTensors model = .ok saved → registeredCudaTensors fresh = .ok tensors →
    SameLayout saved tensors → identityMismatches expected identity "identity" = [] →
    options.preverified = false → ∃ metrics,
      (restore reader fresh expected options.chunkBytes options.queueDepth options.preverified none
        0 ⟨memory, world.files, copies⟩ []).result = .ok metrics

variable {world : World}

theorem holdsOld_of_same (manifest : (world.files .manifest).map File.document =
      (start.files .manifest).map File.document)
    (blob : (world.files .blob).map File.content = (start.files .blob).map File.content) :
    HoldsOld start world := by
  have visible : ∀ memory copies, World.visible ⟨memory, world.files, copies⟩ =
      World.visible ⟨memory, start.files, copies⟩ := by
    intro memory copies
    have documents : (world.files .manifest).map File.documentOnly =
        (start.files .manifest).map File.documentOnly := by
      have only : ∀ file : Option File, file.map File.documentOnly =
          (file.map File.document).map fun document => ⟨0, fun _ => 0, document⟩ := by
        intro file
        rw [Option.map_map]
        rfl
      rw [only, only, manifest]
    have bytes : (world.files .blob).map File.bytesOnly =
        (start.files .blob).map File.bytesOnly := by
      cases now : world.files .blob with
      | none =>
        rw [now, Option.map_none] at blob
        rw [Option.map_eq_none_iff.mp blob.symm]
      | some file =>
        rw [now, Option.map_some] at blob
        rcases Option.map_eq_some_iff.mp blob.symm with ⟨other, before, same⟩
        rw [before, Option.map_some, Option.map_some, bytesOnly_eq same]
    simp [World.visible, documents, bytes]
  refine ⟨manifest, blob, ?_, ?_⟩
  · exact fun _ _ memory copies schedule =>
      (loadManifest_respects.alike (visible memory copies) schedule).1
  · exact fun _ _ _ _ _ memory copies schedule =>
      (restore_respects.alike (visible memory copies) schedule).1

variable {groups : List Group}

theorem holdsNew_of_published (grouping : storageGroups model = .ok groups)
    (published : Published setting identity start.memory groups world) :
    HoldsNew setting model identity start world := by
  refine ⟨⟨groups, grouping, published⟩, ?_⟩
  intro reader fresh expected saved tensors options memory copies captured registered same
    compatible unchecked
  have here : Published setting identity start.memory groups ⟨memory, world.files, copies⟩ :=
    ⟨published.manifest, published.blob⟩
  have keeps := @restore_keeps _ Regime.silent reader setting ⟨memory, world.files, copies⟩
    identity expected start.memory groups model fresh saved tensors options captured grouping
    registered here compatible (fun checked => nomatch unchecked.symm.trans checked)
    fun differs => differs same
  rcases Contract.returns keeps id rfl rfl with ⟨metrics, returned, _⟩
  exact ⟨metrics, returned⟩

omit [Builtins] in
theorem Written.content {path : Path} {memory : Int → UInt8}
    (written : Written path (layoutEnd 0 groups) (blobOf memory groups) world) :
    (world.files path).map File.content = some (blobOf memory groups) := by
  rcases written with ⟨file, present, size, bytes⟩
  rw [present, Option.map_some, File.content, size, ← blobOf_length memory groups, bytes]

/-- Under the old manifest, the new blob is the old artifact if it has the bytes of the
old blob, and the new one if the new manifest is the old one. -/
theorem torn_iff {middle : World} (grouping : storageGroups model = .ok groups)
    (half : Half setting identity groups start middle) (frame : Frame middle world) :
    (HoldsOld start world ∨ HoldsNew setting model identity start world) ↔
      (start.files .blob).map File.content = some (blobOf start.memory groups) ∨
      (start.files .manifest).map File.document =
        some (some (.obj (manifestOf setting identity start.memory groups))) := by
  have blob : (world.files .blob).map File.content = some (blobOf start.memory groups) := by
    rw [frame.files .blob rfl]
    exact half.blob.content
  have manifest : world.files .manifest = start.files .manifest :=
    (frame.files .manifest rfl).trans half.manifest
  constructor
  · rintro (old | new)
    · left
      rw [← old.blob, blob]
    · right
      rcases new.published with ⟨others, grouped, published⟩
      cases grouping.symm.trans grouped
      rcases published.manifest with ⟨file, present, document⟩
      rw [← manifest, present, Option.map_some, document]
  · rintro (same | same)
    · left
      exact holdsOld_of_same (by rw [manifest]) (by rw [blob, same])
    · right
      apply holdsNew_of_published grouping
      rcases Option.map_eq_some_iff.mp same with ⟨file, present, document⟩
      refine ⟨⟨file, manifest.trans present, document⟩, ?_⟩
      rcases half.blob with ⟨blobFile, blobPresent, written⟩
      exact ⟨blobFile, (frame.files .blob rfl).trans blobPresent, written⟩

/-- Wherever a capture is stopped, the directory holds the old or the new artifact,
except when it is stopped at the rename of the manifest: then the old and the new
blob, or the old and the new manifest, must be the same. -/
theorem capture_atomic_iff (options : CaptureOptions setting)
    (schedule : List (Label → Option Stop)) :
    (HoldsOld start (capture setting model identity options.chunkBytes options.queueDepth
        options.replace start schedule).state ∨
      HoldsNew setting model identity start (capture setting model identity options.chunkBytes
        options.queueDepth options.replace start schedule).state) ↔
    (Torn model identity options start schedule → ∃ groups, storageGroups model = .ok groups ∧
      ((start.files .blob).map File.content = some (blobOf start.memory groups) ∨
        (start.files .manifest).map File.document =
          some (some (.obj (manifestOf setting identity start.memory groups))))) := by
  rcases @capture_cases _ setting start model identity options schedule _ rfl with
    ⟨whole, frame⟩ | ⟨torn, groups, grouping, middle, half, frame⟩ |
    ⟨whole, groups, grouping, published⟩
  · constructor
    · exact fun _ torn => (whole torn).elim
    · exact fun _ => .inl (holdsOld_of_same (by rw [frame.files .manifest rfl])
        (by rw [frame.files .blob rfl]))
  · rw [torn_iff grouping half frame]
    constructor
    · exact fun same _ => ⟨groups, grouping, same⟩
    · intro same
      rcases same torn with ⟨others, grouped, same⟩
      cases grouping.symm.trans grouped
      exact same
  · constructor
    · exact fun _ torn => (whole torn).elim
    · exact fun _ => .inr (holdsNew_of_published grouping published)

end Outcome

/-! ## A capture which is killed between the renames -/

def Model.single : Model where
  modules := []
  parameters := [("weight", .flat 4096 0 start_inside)]
  buffers := []
  apart := by
    intro left leftMember right rightMember differ
    simp only [append_nil, mem_singleton] at leftMember rightMember
    rw [leftMember, rightMember] at differ
    exact (differ rfl).elim
  placed := by
    intro item member _
    simp only [append_nil, mem_singleton] at member
    rw [member]
    decide

def CaptureOptions.replacing : CaptureOptions Setting.plain :=
  { CaptureOptions.plain with replace := true }

def zeroCaptured : World :=
  (@capture Setting.plain .decimal .single (.obj []) CaptureOptions.replacing.chunkBytes
    CaptureOptions.replacing.queueDepth CaptureOptions.replacing.replace
    (.vacant fun _ => 0) []).state

def trained : World := ⟨fun _ => 1, zeroCaptured.files, []⟩

def killedAtManifest : List (Label → Option Stop) :=
  replicate 40 fun label => if label = .replace .manifest then some .killed else none

def tornCapture : World :=
  (@capture Setting.plain .decimal .single (.obj []) CaptureOptions.replacing.chunkBytes
    CaptureOptions.replacing.queueDepth CaptureOptions.replacing.replace trained
    killedAtManifest).state

def restoreSingle (directory : World) : Except Stop Metrics :=
  (@restore Setting.plain .decimal .single (.obj []) RestoreOptions.plain.chunkBytes
    RestoreOptions.plain.queueDepth false none 0 directory []).result

/-- The old artifact can be restored. Afterwards neither the old nor the new one is
there, and a restore refuses what it finds. -/
theorem capture_torn : restoreSingle zeroCaptured = .ok ⟨8, 1⟩ ∧
    restoreSingle tornCapture = .error (.raised (artifactError "artifact storage CRC32 mismatch")) ∧
    ¬(@HoldsOld .decimal trained tornCapture ∨
      @HoldsNew .decimal Setting.plain .single (.obj []) trained tornCapture) := by
  have restores : restoreSingle zeroCaptured = .ok ⟨8, 1⟩ := by decide +kernel
  have refuses : restoreSingle tornCapture =
      .error (.raised (artifactError "artifact storage CRC32 mismatch")) := by decide +kernel
  have different : (tornCapture.files .blob).map File.content ≠
      (trained.files .blob).map File.content := by decide +kernel
  let : Builtins := .decimal
  refine ⟨restores, refuses, ?_⟩
  rintro (old | new)
  · exact different old.blob
  · have known : @registeredCudaTensors .decimal .single =
        .ok [("parameter:weight", .flat 4096 0 start_inside)] := rfl
    have compatible : identityMismatches (.obj []) (.obj []) "identity" = [] := rfl
    rcases new.restores RestoreOptions.plain tornCapture.memory tornCapture.copies known known
      (SameLayout.refl (registered_of_ok known).1.nodup) compatible rfl with ⟨metrics, returned⟩
    cases refuses.symm.trans returned

end Coldsnap.Artifact
