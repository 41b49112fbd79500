import Coldsnap.Artifact.Publishing
import Coldsnap.Artifact.RestoreCorrect

/-! # Round trip of an artifact

A completed capture can be restored into every model of the same layout, and into
no other. The restored tensors have their captured values.
-/

namespace Coldsnap.Artifact

open Python Program Intervals Crc32 Sha256 Chunks List Checked Bytes Regime

/-! ## The blob -/

/-- The bytes of a storage lie at its offset. -/
theorem nativeBytes_split {memory : Int → UInt8} {groups : List Group} {item : Group × Nat} :
    ∀ {position : Nat}, item ∈ layoutFrom position groups → ∃ first last,
      nativeBytes memory position (layoutFrom position groups) =
        first ++ item.1.tensor.storage.view memory ++ last ∧
      position + first.length = item.2 := by
  induction groups with
  | nil => intro position member; cases member
  | cons group groups induction =>
    intro position member
    have aligned := le_align position
    rw [layoutFrom, nativeBytes]
    rcases mem_cons.mp member with rfl | later
    · refine ⟨replicate (align position - position) 0, _, rfl, ?_⟩
      rw [length_replicate]
      omega
    · rcases induction later with ⟨first, last, split, place⟩
      rw [split]
      refine ⟨replicate (align position - position) 0 ++
        slice memory group.tensor.storage.pointer group.tensor.storage.nbytes ++ first,
        last, by simp only [append_assoc], ?_⟩
      simp only [length_append, length_replicate, slice_length]
      omega

structure Carries (file : File) (blobOffset : Int) (blob : List UInt8) : Prop where
  offset : 0 ≤ blobOffset
  inside : blobOffset + blob.length ≤ file.size
  bytes : slice file.byte blobOffset blob.length = blob

/-! ## Matching rows -/

section Rows

variable {model : Model} {saved fresh : List (String × Tensor)} {groups : List Group}

/-- The rows which a resolution yields, seen from the tensors on both sides. -/
structure Matches (saved fresh : List (String × Tensor)) (groups : List Group)
    (rows : List Row) : Prop where
  tidy : Tidy rows
  listed : rows ≠ []
  placed : ∀ row ∈ rows, row.2 ∈ layoutFrom 0 groups
  known : ∀ row ∈ rows, ∃ name, (name, row.1) ∈ fresh
  found : ∀ {name left right}, (name, left) ∈ saved → (name, right) ∈ fresh →
    ∃ row ∈ rows, row.1.storage = right.storage ∧ row.2.1.tensor.storage = left.storage

theorem Matches.source {rows : List Row} (matched : Matches saved fresh groups rows)
    {memory : Int → UInt8} {file : File} {blobOffset : Int}
    (carries : Carries file blobOffset (blobOf memory groups)) :
    Source memory blobOffset rows file := by
  have split : ∀ row ∈ rows, ∃ first last, blobOf memory groups =
      first ++ savedBytes memory row ++ last ∧ first.length = row.2.2 ∧
      (savedBytes memory row).length = row.1.storage.nbytes := by
    intro row member
    rcases nativeBytes_split (matched.placed row member) with ⟨first, last, split, place⟩
    rw [Nat.zero_add] at place
    exact ⟨first, last, split, place, savedBytes_length matched.tidy memory member⟩
  refine ⟨carries.offset, ?_, ?_⟩
  · intro row member
    rcases split row member with ⟨first, last, whole, place, length⟩
    have inside := carries.inside
    rw [whole] at inside
    simp only [length_append] at inside
    omega
  · intro row member
    rcases split row member with ⟨first, last, whole, place, length⟩
    have bytes := carries.bytes
    rw [whole] at bytes
    have found := slice_within bytes
    rwa [place, length] at found

theorem matches_of_resolved [Builtins] (grouped : Grouped saved groups) (filled : groups ≠ [])
    (savedNodup : (saved.map Prod.fst).Nodup) (registered : Registered model fresh)
    {resolved : List Tensor} (fits : Forall₂ (Fits fresh) groups resolved)
    (distinct : (resolved.map Tensor.storage).Nodup) :
    Matches saved fresh groups (resolved.zip (layoutFrom 0 groups)) := by
  have layout : Forall₂ (fun tensor (item : Group × Nat) => Fits fresh item.1 tensor)
      resolved (layoutFrom 0 groups) := by
    rw [← @layoutFrom_map_fst groups 0, forall₂_map_left_iff] at fits
    exact fits.flip
  rcases forall₂_iff_zip.mp layout with ⟨length, paired⟩
  have firsts := map_fst_zip length.le
  have seconds := map_snd_zip length.ge
  have known : ∀ row ∈ resolved.zip (layoutFrom 0 groups), ∃ name, (name, row.1) ∈ fresh := by
    intro row member
    exact ⟨_, (tensorNamed_eq_ok registered.nodup).mp (paired member).lead⟩
  refine ⟨⟨?_, ?_, ?_, ?_⟩, ?_, ?_, known, ?_⟩
  · exact fun row member => (paired member).size
  · have different : (resolved.zip (layoutFrom 0 groups)).Pairwise fun left right =>
        left.1.storage ≠ right.1.storage := by
      rw [← firsts, map_map] at distinct
      exact pairwise_map.mp distinct
    apply different.imp_of_mem
    intro left right leftMember rightMember differ
    rcases known left leftMember with ⟨leftName, leftKnown⟩
    rcases known right rightMember with ⟨rightName, rightKnown⟩
    exact registered.apart leftKnown rightKnown differ
  · intro row member
    rcases known row member with ⟨name, present⟩
    exact registered.storage_nonempty present
  · intro row member
    rcases known row member with ⟨name, present⟩
    exact registered.pointer_positive present
  · intro empty
    rw [empty] at seconds
    have none : (layoutFrom 0 groups).map Prod.fst = [] := by rw [← seconds]; rfl
    rw [layoutFrom_map_fst] at none
    exact filled none
  · intro row member
    exact (of_mem_zip member).2
  · intro name left right leftKnown rightKnown
    rcases grouped.group_of savedNodup leftKnown with ⟨group, member, recorded, storage⟩
    rw [← @layoutFrom_map_fst groups 0, ← seconds, map_map] at member
    rcases mem_map.mp member with ⟨row, rowMember, rfl⟩
    rcases (paired rowMember).shows registered.nodup recorded with ⟨view, present, same, _⟩
    cases eq_of_name registered.nodup present rightKnown
    exact ⟨row, rowMember, same.symm, storage⟩

end Rows

/-! ## What a restore achieves -/

theorem value_eq_of_view_eq {name : String} {left right : Tensor} (filled : 0 < left.numel)
    (form : recordOf (name, left) = recordOf (name, right))
    (size : left.storage.nbytes = right.storage.nbytes) {memory captured : Int → UInt8}
    (same : right.storage.view memory = left.storage.view captured) :
    right.value memory = left.value captured := by
  simp only [recordOf, tensorReference, Reference.mk.injEq] at form
  rcases form with ⟨_, _, shape, stride, offset, nbytes⟩
  have offsets : left.offset = right.offset := by omega
  have elements : left.elementSize = right.elementSize := by
    have counts : right.numel = left.numel := by rw [Tensor.numel, Tensor.numel, shape]
    rw [counts] at nbytes
    exact Nat.eq_of_mul_eq_mul_left filled nbytes
  have bytes : right.bytes = left.bytes := by
    rw [Tensor.bytes, Tensor.bytes, shape, stride, offsets, elements]
  rw [Tensor.value, Tensor.value, bytes]
  apply map_congr_left
  intro byte member
  rw [Storage.view, Storage.view, size] at same
  apply eq_of_slice_eq same
  rw [← size]
  exact left.inside byte member

/-- The fresh tensors have the captured values; every byte of their storages was
written once and no other byte was written. -/
structure Recovered (saved fresh : List (String × Tensor)) (captured : Int → UInt8)
    (process after : World) : Prop where
  values : ∀ {name left right}, (name, left) ∈ saved → (name, right) ∈ fresh →
    right.value after.memory = left.value captured
  copies : ∃ new, after.copies = process.copies ++ new ∧
    (∀ item ∈ fresh, ∀ point, Contains item.2.storage.range point → coverCount new point = 1) ∧
    ∀ point, (∀ item ∈ fresh, ¬Contains item.2.storage.range point) → coverCount new point = 0
  outside : ∀ point, (∀ item ∈ fresh, ¬Contains item.2.storage.range point) →
    after.memory point = process.memory point
  files : after.files = process.files

theorem Hydrated.recovered {model : Model} {saved fresh : List (String × Tensor)}
    {groups : List Group} {rows : List Row} {captured : Int → UInt8} {process after : World}
    (hydrated : Hydrated captured process rows after) (matched : Matches saved fresh groups rows)
    (registered : Registered model saved) (same : SameLayout saved fresh)
    (files : after.files = process.files) : Recovered saved fresh captured process after := by
  have free : ∀ {point}, (∀ item ∈ fresh, ¬Contains item.2.storage.range point) →
      ∀ row ∈ rows, ¬Contains row.1.storage.range point := by
    intro point none row member
    rcases matched.known row member with ⟨name, present⟩
    exact none _ present
  refine ⟨?_, ?_, ?_, files⟩
  · intro name left right leftKnown rightKnown
    rcases matched.found leftKnown rightKnown with ⟨row, member, rightStorage, leftStorage⟩
    have views := same.views leftKnown rightKnown
    apply value_eq_of_view_eq (registered.nonempty _ leftKnown) views.1 views.2
    rw [← rightStorage, ← leftStorage]
    exact hydrated.written row member
  · rcases hydrated.copies with ⟨new, later, cover⟩
    refine ⟨new, later, ?_, ?_⟩
    · intro item member point inside
      rcases mem_map.mp ((same.names item.1).mpr (mem_map_of_mem member)) with
        ⟨⟨name, left⟩, known, equal⟩
      subst equal
      rcases matched.found known member with ⟨row, rowMember, storage, _⟩
      rw [cover]
      apply coverCount_eq_one (pairwise_map.mpr matched.tidy.apart) (mem_map_of_mem rowMember)
      rwa [storage]
    · intro point none
      rw [cover]
      apply coverCount_eq_zero
      rw [forall_mem_map]
      intro row rowMember
      exact free none row rowMember
  · exact fun point none => hydrated.outside point (free none)

/-! ## Restoring -/

/-- Options which `restore` accepts for a complete artifact. One call of the kernel
moves a whole chunk. -/
structure RestoreOptions (setting : Setting) where
  chunkBytes : Int
  queueDepth : Int
  preverified : Bool
  chunk_aligned : 0 < chunkBytes ∧ chunkBytes % 4096 = 0
  chunk_bounded : setting.hydrator = none → chunkBytes ≤ transferLimit
  depth_bounds : 1 ≤ queueDepth ∧ queueDepth ≤ 64
  hydrator_known : ∀ backend, setting.hydrator = some backend →
    backend ∈ ["auto", "direct", "buffered", "gds"]
  gds_preverified : setting.hydrator = some "gds" → preverified = true

def Admitted (setting : Setting) (preverified : Bool) (blob : List UInt8) (world : World) : Prop :=
  preverified = true → setting.validation (sha256 blob) (world.files .blob) = .ok ()

section Restore

variable [Builtins] {regime : Regime} {setting writer : Setting} {start : World}
variable {identity expected : Json} {memory : Int → UInt8} {groups : List Group}
  {before : World → Prop}

theorem loadManifest_keeps (published : Published writer identity memory groups start)
    (compatible : identityMismatches expected identity "identity" = []) :
    regime.Keeps (SameFiles start) before (loadManifest setting (some expected) none 0)
      fun manifest world => manifest = manifestOf writer identity memory groups ∧ before world := by
  rcases published.manifest with ⟨manifestFile, manifestPresent, document⟩
  rcases published.blob with ⟨blobFile, blobPresent, size, _⟩
  have reads : regime.Keeps (SameFiles start) before (readManifest setting) fun found world =>
      found = .obj (manifestOf writer identity memory groups) ∧ before world := by
    apply Contract.through fun _ => before
    · apply ask_keeps
      intro world same starts
      rw [same, manifestPresent]
      exact starts
    intro _
    apply ask_keeps
    intro world same starts
    rw [same, manifestPresent, Option.bind_some, document]
    exact ⟨rfl, starts⟩
  apply Contract.bindKnown (catching_keeps reads fun error =>
    .raise fun _ _ => id)
  apply Contract.bindReturns rfl
  apply Contract.bindPasses rfl
  apply Contract.bindPasses (by
    rw [decide_eq_true_eq]
    exact compatible)
  have sizes : regime.Keeps (SameFiles start) before (stat setting .blob) fun found world =>
      found = layoutEnd 0 groups ∧ before world := by
    apply ask_keeps
    intro world same starts
    rw [same, blobPresent]
    exact ⟨size, starts⟩
  apply Contract.bindKnown (catching_keeps sizes fun error =>
    .raise fun _ _ => id)
  apply Contract.bindPasses (by simp)
  exact .pure fun _ _ starts => ⟨rfl, starts⟩

theorem verifyPreverified_keeps {preverified : Bool}
    (admitted : Admitted setting preverified (blobOf memory groups) start) :
    regime.Keeps (SameFiles start) before
      (Program.onlyIf (preverified && (none : Option Path).isNone)
        (verifyPreverified setting (manifestOf writer identity memory groups)))
      fun _ => before := by
  apply Contract.onlyIf
  · intro checked
    have passes := admitted (Bool.and_eq_true_iff.mp checked).1
    apply catching_keeps
    · apply ask_keeps
      intro world same starts
      have digest : ((manifestOf writer identity memory groups).getD "blob_sha256"
          (.str "")).toText = sha256 (blobOf memory groups) := rfl
      rw [digest, same, passes]
      exact starts
    · exact fun error => .raise fun _ _ => id
  · exact fun _ world _ starts => starts

theorem restoreBlob_keeps (options : RestoreOptions setting) {path : Path} {file : File}
    {blobOffset : Int} {rows : List Row} (present : start.files path = some file)
    (tidy : Tidy rows) (listed : rows ≠ []) (source : Source memory blobOffset rows file) :
    regime.Keeps (SameFiles start) (Hydrated memory start [])
      (restoreBlob setting path blobOffset options.chunkBytes options.queueDepth
        options.preverified (rows.map (recordRow memory)))
      fun _ => Hydrated memory start rows := by
  unfold restoreBlob
  split
  · rename_i backend native
    have extents : mapEach (extentOf blobOffset) (rows.map (recordRow memory)) =
        .ok (rows.map (extentFor memory blobOffset)) :=
      mapEach_map fun row => extentOf_recordRow tidy source.offset
    apply Contract.bindReturns (by rw [extents]; rfl)
    apply hydrateNativeExtents_keeps present source options.chunk_aligned options.depth_bounds
      (options.hydrator_known backend native) _ listed tidy
    rintro rfl
    exact options.gds_preverified native
  · rename_i host
    exact restorePython_keeps present options.chunk_aligned.1 (options.chunk_bounded host) tidy
      listed source

variable {model fresh : Model} {saved tensors : List (String × Tensor)}

/-- A restore returns for a model of the same layout only, and then it has put every
captured value in place. -/
theorem restore_keeps (options : RestoreOptions setting)
    (captured : registeredCudaTensors model = .ok saved)
    (grouping : storageGroups model = .ok groups)
    (registered : registeredCudaTensors fresh = .ok tensors)
    (published : Published writer identity memory groups start)
    (compatible : identityMismatches expected identity "identity" = [])
    (admitted : Admitted setting options.preverified (blobOf memory groups) start)
    (fails : ¬SameLayout saved tensors → regime.allowed) :
    regime.Keeps (SameFiles start) (fun world => world = start)
      (restore setting fresh expected options.chunkBytes options.queueDepth options.preverified
        none 0)
      fun _ world => SameLayout saved tensors ∧ Recovered saved tensors memory start world := by
  have grouped := grouped_storageGroups captured grouping
  have savedRegistered := registered_of_ok captured
  have freshRegistered := (registered_of_ok registered).1
  rcases published.blob with ⟨blobFile, blobPresent, size, bytes⟩
  have carries : Carries blobFile 0 (blobOf memory groups) :=
    ⟨le_refl 0, by rw [blobOf_length, size]; omega, bytes⟩
  have chunk : (decide (0 < options.chunkBytes) &&
      decide (options.chunkBytes % (alignment : Int) = 0)) = true := by
    rw [Bool.and_eq_true, decide_eq_true_eq, decide_eq_true_eq]
    exact options.chunk_aligned
  apply Contract.bindPasses chunk
  apply Contract.bind quiet_keeps
  intro _
  apply finallyDo_triple _ (fun _ => quiet_keeps) quiet_keeps
  apply Contract.bindKnown (loadManifest_keeps published compatible)
  apply Contract.bind (verifyPreverified_keeps admitted)
  intro _
  apply Contract.bindReturns rfl
  apply Contract.bindReturns rfl
  apply bindLift
  · intro error refused
    apply fails
    intro same
    rcases exists_resolved grouped same freshRegistered.nodup with ⟨resolved, fits, distinct⟩
    have accepted : resolveStorages fresh ((entriesOf memory groups).map .obj) = .ok _ :=
      (resolveStorages_eq_ok grouped savedRegistered.1.nodup registered).mpr
        ⟨same, resolved, fits, distinct, rfl⟩
    rw [accepted] at refused
    cases refused
  · intro resolution accepted
    rcases (resolveStorages_eq_ok grouped savedRegistered.1.nodup registered).mp accepted with
      ⟨same, resolved, fits, distinct, rfl⟩
    have matched := matches_of_resolved grouped (grouped.ne_nil savedRegistered.2)
      savedRegistered.1.nodup freshRegistered fits distinct
    have records : resolved.zip (entriesOf memory groups) =
        (resolved.zip (layoutFrom 0 groups)).map (recordRow memory) := by
      rw [entriesOf, zip_map_right]
      rfl
    rw [records]
    have begins : ∀ world, SameFiles start world → world = start →
        Hydrated memory start [] world := by
      rintro world _ rfl
      exact Hydrated.nil _ _
    apply Contract.bind (.starting begins (restoreBlob_keeps options blobPresent
      matched.tidy matched.listed (matched.source carries)))
    intro restored
    apply Contract.pure
    exact fun world files hydrated =>
      ⟨same, hydrated.recovered matched savedRegistered.1 same files⟩

/-- A capture into a vacant directory returns. Whenever it returns, a restore returns
for a model of the same layout and for no other, and it puts every named tensor
back to its captured value while it writes every storage once and nothing else. -/
theorem restore_capture {reader : Setting} (captured : registeredCudaTensors model = .ok saved)
    (registered : registeredCudaTensors fresh = .ok tensors) (options : CaptureOptions setting)
    (restoring : RestoreOptions reader)
    (compatible : identityMismatches expected identity "identity" = [])
    (vacant : (refuseExisting setting identity options.replace start []).result = .ok ()) :
    (∃ metrics, (capture setting model identity options.chunkBytes options.queueDepth
      options.replace start []).result = .ok metrics) ∧
    ∀ schedule metrics, (capture setting model identity options.chunkBytes options.queueDepth
      options.replace start schedule).result = .ok metrics →
    ∀ process : World, process.files = (capture setting model identity options.chunkBytes
      options.queueDepth options.replace start schedule).state.files →
    (∀ groups, storageGroups model = .ok groups →
      Admitted reader restoring.preverified (blobOf start.memory groups) process) →
    (SameLayout saved tensors → ∃ metrics, (restore reader fresh expected restoring.chunkBytes
      restoring.queueDepth restoring.preverified none 0 process []).result = .ok metrics) ∧
    ∀ later metrics, (restore reader fresh expected restoring.chunkBytes restoring.queueDepth
      restoring.preverified none 0 process later).result = .ok metrics →
      SameLayout saved tensors ∧ Recovered saved tensors start.memory process
        (restore reader fresh expected restoring.chunkBytes restoring.queueDepth
          restoring.preverified none 0 process later).state := by
  have groupsOf : ∃ groups, storageGroups model = .ok groups :=
    ⟨_, storageGroups_eq_ok.mpr ⟨saved, captured, rfl⟩⟩
  refine ⟨?_, ?_⟩
  · have keeps := capture_keeps options (refuseExisting_passes vacant) (by
      intro error failed
      rcases groupsOf with ⟨groups, grouping⟩
      cases grouping.symm.trans failed)
    rcases Contract.returns keeps id trivial rfl with ⟨metrics, returned, _⟩
    exact ⟨metrics, returned⟩
  · intro schedule metrics returned process files admitted
    have keeps := @capture_keeps _ wild setting start model identity options
      (refuseExisting_still trivial) fun _ _ => trivial
    rcases (keeps.returned trivial rfl (fun _ _ => trivial) returned).2 with
      ⟨groups, grouping, published⟩
    have here : Published setting identity start.memory groups process := by
      rcases published with ⟨⟨manifest, present, document⟩, blob, blobPresent, written⟩
      exact ⟨⟨manifest, by rw [files, present], document⟩, blob, by rw [files, blobPresent],
        written⟩
    refine ⟨?_, ?_⟩
    · intro same
      have restores := @restore_keeps _ silent reader setting process identity expected
        start.memory groups model fresh saved tensors restoring captured grouping registered here
        compatible (admitted groups grouping) fun differs => differs same
      rcases Contract.returns restores id rfl rfl with ⟨metrics, returned, _⟩
      exact ⟨metrics, returned⟩
    · intro later metrics returned
      have restores := @restore_keeps _ wild reader setting process identity expected
        start.memory groups model fresh saved tensors restoring captured grouping registered here
        compatible (admitted groups grouping) fun _ => trivial
      exact (restores.returned rfl rfl (fun _ _ => trivial) returned).2

end Restore

/-! ## Two parameters which overlap in one storage, and a buffer -/

theorem start_inside : 0 ≤ 4 := by decide

theorem flat_inside {offset : Nat} (inside : offset ≤ 4) :
    ∀ byte ∈ Strides.bytes 1 offset [4] [1], byte < 8 := by
  intro byte member
  simp [Strides.bytes, Strides.places, range_succ] at member
  omega

def Tensor.flat (pointer : Int) (offset : Nat) (inside : offset ≤ 4) : Tensor where
  storage := ⟨pointer, 8, 0⟩
  cuda := true
  dtype := "torch.uint8"
  elementSize := 1
  shape := [4]
  stride := [1]
  offset := offset
  element_positive := Nat.one_pos
  inside := flat_inside inside

def Model.tied (pointer : Int) (placed : 0 < pointer) : Model where
  modules := []
  parameters := [("embed", .flat pointer 0 start_inside), ("head", .flat pointer 2 (by decide))]
  buffers := [("scale", .flat (pointer + 4096) 4 (by decide))]
  apart := by
    intro left leftMember right rightMember differ point inside
    simp only [cons_append, nil_append, mem_cons, not_mem_nil, or_false] at leftMember rightMember
    rcases leftMember with rfl | rfl | rfl <;> rcases rightMember with rfl | rfl | rfl <;>
      simp_all only [Tensor.flat, Storage.range, Contains, ne_eq, not_true_eq_false] <;> omega
  placed := by
    intro item member _
    simp only [cons_append, nil_append, mem_cons, not_mem_nil, or_false] at member
    rcases member with rfl | rfl | rfl <;> simp only [Tensor.flat] <;> omega

def Setting.plain : Setting where
  root := "/artifact"
  canonicalJson _ := []
  captureTransport := false
  hydrator := none
  directAvailable := false
  validation _ _ := .ok ()

def CaptureOptions.plain : CaptureOptions Setting.plain where
  chunkBytes := 4096
  queueDepth := 4
  replace := false
  chunk_positive := by decide
  chunk_bounded _ := by decide
  chunk_aligned _ := by decide
  depth_bounds := by decide

def RestoreOptions.plain : RestoreOptions Setting.plain where
  chunkBytes := 8192
  queueDepth := 4
  preverified := false
  chunk_aligned := by decide
  chunk_bounded _ := by decide
  depth_bounds := by decide
  hydrator_known _ native := nomatch native
  gds_preverified native := nomatch native

def World.vacant (memory : Int → UInt8) : World := ⟨memory, fun _ => none, []⟩

def tiedTensors (pointer : Int) : List (String × Tensor) :=
  [("parameter:embed", .flat pointer 0 start_inside),
    ("parameter:head", .flat pointer 2 (by decide)),
    ("buffer:scale", .flat (pointer + 4096) 4 (by decide))]

theorem sameLayout_tied (pointer other : Int) :
    SameLayout (tiedTensors pointer) (tiedTensors other) := by
  refine ⟨fun name => .rfl, ?_, ?_⟩
  · intro name left right leftKnown rightKnown
    simp only [tiedTensors, mem_cons, not_mem_nil, or_false, Prod.mk.injEq] at leftKnown rightKnown
    rcases leftKnown with ⟨rfl, rfl⟩ | ⟨rfl, rfl⟩ | ⟨rfl, rfl⟩ <;>
      simp at rightKnown <;> subst rightKnown <;>
      simp [recordOf, tensorReference, Tensor.flat, Tensor.numel]
  · intro first left right second leftToo rightToo a b c d
    simp only [tiedTensors, mem_cons, not_mem_nil, or_false, Prod.mk.injEq] at a b c d
    rcases a with ⟨rfl, rfl⟩ | ⟨rfl, rfl⟩ | ⟨rfl, rfl⟩ <;> simp at b <;> subst b <;>
    rcases c with ⟨rfl, rfl⟩ | ⟨rfl, rfl⟩ | ⟨rfl, rfl⟩ <;> simp at d <;> subst d <;>
      simp [Tensor.flat]

theorem registered_tied [Builtins] (pointer : Int) (placed : 0 < pointer) :
    registeredCudaTensors (.tied pointer placed) = .ok (tiedTensors pointer) := rfl

def capturedTied : Run Label World Stop Metrics :=
  @capture Setting.plain .decimal (.tied 4096 (by decide)) (.obj []) CaptureOptions.plain.chunkBytes
    CaptureOptions.plain.queueDepth CaptureOptions.plain.replace
    (.vacant fun point => UInt8.ofInt point) []

def restoredTied : Run Label World Stop Metrics :=
  @restore Setting.plain .decimal (.tied 65536 (by decide)) (.obj [])
    RestoreOptions.plain.chunkBytes RestoreOptions.plain.queueDepth RestoreOptions.plain.preverified
    none 0
    ⟨fun _ => 0, capturedTied.state.files, []⟩ []

theorem restore_capture_tied : (∃ metrics, restoredTied.result = .ok metrics) ∧
    Recovered (tiedTensors 4096) (tiedTensors 65536) (fun point => UInt8.ofInt point)
      ⟨fun _ => 0, capturedTied.state.files, []⟩ restoredTied.state := by
  have whole := @restore_capture .decimal Setting.plain
    (World.vacant fun point => UInt8.ofInt point) (.obj []) (.obj []) (.tied 4096 (by decide))
    (.tied 65536 (by decide)) (tiedTensors 4096) (tiedTensors 65536) Setting.plain
    (@registered_tied .decimal _ _) (@registered_tied .decimal _ _) CaptureOptions.plain
    RestoreOptions.plain rfl rfl
  rcases whole with ⟨⟨metrics, captured⟩, restores⟩
  have both := restores [] metrics captured ⟨fun _ => 0, _, []⟩ rfl nofun
  rcases both.1 (sameLayout_tied 4096 65536) with ⟨restored, returned⟩
  exact ⟨⟨restored, returned⟩, (both.2 [] restored returned).2⟩

end Coldsnap.Artifact
