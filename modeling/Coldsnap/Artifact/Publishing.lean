import Coldsnap.Artifact.CaptureCorrect

/-! # Publishing an artifact

A capture first renames the blob and then the manifest. Wherever it is stopped, the
directory is as before, has the new blob under the old manifest, or holds both new
files.
-/

namespace Coldsnap.Artifact

open Python Program Sha256 Checked Regime

structure Published (writer : Setting) (identity : Json) (memory : Int → UInt8)
    (groups : List Group) (world : World) : Prop where
  manifest : Document .manifest (.obj (manifestOf writer identity memory groups)) world
  blob : Written .blob (layoutEnd 0 groups) (blobOf memory groups) world

structure Half (setting : Setting) (identity : Json) (groups : List Group)
    (start world : World) : Prop where
  blob : Written .blob (layoutEnd 0 groups) (blobOf start.memory groups) world
  pending : Document .temporaryManifest
    (.obj (manifestOf setting identity start.memory groups)) world
  manifest : world.files .manifest = start.files .manifest

/-- The program changes nothing. -/
abbrev Regime.Still {α : Type} (regime : Regime) (start : World) (program : Action α) : Prop :=
  regime.Keeps (fun world => world = start) (fun _ => True) program fun _ _ => True

section Steps

variable {regime : Regime} {setting : Setting} {start : World} {identity : Json}
variable {world : World} {file : File}

theorem Written.rename {source target : Path} {total : Nat} {bytes : List UInt8}
    (written : Written source total bytes world) (present : world.files source = some file) :
    Written target total bytes ((world.setFile source none).setFile target (some file)) := by
  rcases written with ⟨other, found, size, slice⟩
  cases found.symm.trans present
  exact ⟨_, World.setFile_same .., size, slice⟩

theorem publishManifest {groups : List Group} (half : Half setting identity groups start world)
    (present : world.files .temporaryManifest = some file) :
    Published setting identity start.memory groups
      ((world.setFile .temporaryManifest none).setFile .manifest (some file)) := by
  rcases half.pending with ⟨other, found, document⟩
  cases found.symm.trans present
  exact ⟨⟨_, World.setFile_same .., document⟩, half.blob⟩

theorem Frame.published {groups : List Group} {memory : Int → UInt8} {now : World}
    (frame : Frame world now) (published : Published setting identity memory groups world) :
    Published setting identity memory groups now := by
  rcases published with ⟨⟨manifest, manifestPresent, document⟩, blob, blobPresent, written⟩
  exact ⟨⟨manifest, (frame.files .manifest rfl).trans manifestPresent, document⟩,
    blob, (frame.files .blob rfl).trans blobPresent, written⟩

theorem discard_keeps {path : Path} (temporary : path.isTemporary = true) :
    regime.Keeps (Frame start) (fun _ => True) (discard path) fun _ _ => True :=
  act_keeps fun _ frame _ => ⟨frame.setFile temporary _, trivial⟩

theorem cleanUp_keeps : regime.Keeps (Frame start) (fun _ => True) cleanUp fun _ _ => True := by
  apply Contract.bind (discard_keeps rfl)
  intro _
  apply Contract.bind (discard_keeps rfl)
  intro _
  exact quiet_keeps

/-- What does not depend on temporary files survives the cleanup. -/
theorem cleanUp_stable {before : World → Prop}
    (stable : ∀ world now, Frame world now → before world → before now) :
    regime.Keeps (fun _ => True) before cleanUp fun _ => before := by
  intro state schedule starts planned
  have cleans : regime.Keeps (Frame state) (fun _ => True) cleanUp fun _ _ => True :=
    cleanUp_keeps
  have keeps : Triple regime.plan (fun _ => True) (fun world => Frame state world ∧ True) cleanUp
      (fun _ world => True ∧ before world) fun _ _ => True ∧ regime.allowed := by
    apply Triple.consequence cleans
    · exact fun _ => id
    · exact fun _ _ => trivial
    · exact fun _ world ends => ⟨trivial, stable state world ends.1 starts.2⟩
    · exact fun _ _ stopped => ⟨trivial, stopped.2⟩
  exact keeps state schedule ⟨.refl _, trivial⟩ planned

theorem checkOptions_keeps (options : CaptureOptions setting) :
    regime.Still start (checkOptions options.chunkBytes options.queueDepth) := by
  apply Contract.bindPasses (by simpa using options.chunk_positive)
  apply Contract.bindPasses (by simpa using options.depth_bounds)
  apply Contract.bind quiet_keeps
  intro _
  exact quiet_keeps

theorem ask_still {α : Type} {label : Label} {answer : World → Checked α}
    (allows : regime.allowed) : regime.Still start (ask label answer) := by
  apply ask_keeps
  intro world _ _
  cases answer world with
  | ok value => trivial
  | error error => exact allows

/-- The cleanup touches temporary files only. -/
theorem finallyDo_frame {α : Type} (body : Action α) (start : World)
    (schedule : List (Label → Option Stop)) :
    Frame (body start schedule).state (finallyDo body cleanUp start schedule).state := by
  have cleans : ∀ world rest, Frame world (cleanUp world rest).state := by
    intro world rest
    have keeps := @cleanUp_keeps wild world
    exact keeps.inFrame (.refl _) trivial fun _ _ => trivial
  rcases finallyDo_state body cleanUp start schedule with same | cleaned
  · rw [same]
    exact .refl _
  · rw [cleaned]
    exact cleans _ _

end Steps

section Publish

variable [Builtins] {regime : Regime} {setting : Setting} {start : World} {model : Model}
variable {identity : Json}

/-! ## Looking at the directory -/

theorem loadManifest_still {expected : Option Json} {blobPath : Option Path} {blobOffset : Int}
    (allows : regime.allowed) :
    regime.Still start (loadManifest setting expected blobPath blobOffset) := by
  have gives : ∀ {α : Type} (stop : Stop), regime.Keeps (fun world => world = start)
      (fun _ => regime.allowed) (Program.raise stop : Action α) fun _ _ => True :=
    fun stop => .raise fun _ _ _ => allows
  have reads : regime.Still start (readManifest setting) := by
    apply Contract.bind (ask_still allows)
    intro _
    exact ask_still allows
  apply Contract.bind (catching_keeps reads fun error => gives _)
  intro document
  apply bindLift fun _ _ => allows
  intro manifest _
  apply bindCheck fun _ => allows
  intro _
  apply bindCheck fun _ => allows
  intro _
  apply bindCheck fun _ => allows
  intro _
  apply Contract.bind (catching_keeps (ask_still allows) fun error => gives _)
  intro size
  apply bindLift fun _ _ => allows
  intro blobBytes _
  apply bindCheck fun _ => allows
  intro _
  exact .pure fun _ _ _ => trivial

theorem refuseExisting_still {replace : Bool} (allows : regime.allowed) :
    regime.Still start (refuseExisting setting identity replace) := by
  unfold refuseExisting
  split
  · exact .pure fun _ _ _ => trivial
  · have accepts : regime.Still start
        ((loadManifest setting (some identity) none 0).bind fun _ => pure true) := by
      apply Contract.bind (loadManifest_still allows)
      intro _
      exact .pure fun _ _ _ => trivial
    apply Contract.bind (catching_keeps accepts fun _ => .pure fun _ _ _ => trivial)
    intro compatible
    apply Contract.require
    · exact fun _ _ _ _ => allows
    · exact fun _ _ _ _ => trivial

theorem refuseExisting_passes {replace : Bool}
    (vacant : (refuseExisting setting identity replace start []).result = .ok ()) :
    silent.Still start (refuseExisting setting identity replace) := by
  intro state schedule starts planned
  have still := @refuseExisting_still _ undisturbed setting start identity replace trivial
    state schedule starts planned
  cases schedule with
  | cons entry rest => exact (planned entry List.mem_cons_self).elim
  | nil =>
    have here : state = start := starts.1
    subst here
    rw [vacant] at still ⊢
    exact still

/-! ## The renames -/

variable (options : CaptureOptions setting)
  (refuses : regime.Still start (refuseExisting setting identity options.replace))

include refuses in
theorem publishBlob_triple (fails : ∀ error, storageGroups model = .error error → regime.allowed) :
    Triple regime.plan (fun _ => True) (fun world => world = start)
      (publishBlob setting model identity options.chunkBytes.toNat options.replace)
      (fun entries world => Described model start.memory entries
        (Half setting identity · start world))
      fun _ world => Frame start world ∧ regime.allowed := by
  apply Triple.through fun _ => Frame start
  · apply Triple.consequence refuses
    · exact fun world starts => ⟨starts, trivial⟩
    · exact fun _ _ => trivial
    · rintro _ world ⟨rfl, _⟩
      exact .refl _
    · rintro _ world ⟨rfl, allowed⟩
      exact ⟨.refl _, allowed⟩
  intro _
  apply Triple.through fun entries world => Frame start world ∧
    Described model start.memory entries (Prepared setting identity start.memory · world)
  · apply Triple.consequence (writeFiles_keeps options fails)
    · exact fun world frame => ⟨frame, trivial⟩
    · exact fun _ _ => trivial
    · exact fun _ _ => id
    · exact fun _ _ => id
  intro entries
  apply Triple.through fun _ world =>
    Described model start.memory entries (Half setting identity · start world)
  · apply Triple.operation
    · exact fun world entry stop starts planned raises =>
        ⟨trivial, starts.1, regime.tolerates planned raises⟩
    · rintro world ⟨frame, groups, grouping, same, prepared⟩
      rcases prepared.blob with ⟨file, present, _⟩
      refine ⟨trivial, ?_⟩
      simp only [present]
      exact ⟨groups, grouping, same, prepared.blob.rename present, prepared.manifest,
        frame.files .manifest rfl⟩
  intro _
  exact .pure fun _ => id

def publishRest (setting : Setting) (entries : List Dict) : Action Metrics := do
  replaceFile setting .temporaryManifest .manifest
  quiet .syncDirectory
  let sizes ← lift (mapEach (fun entry : Dict => entry.int "nbytes") entries)
  return ⟨sizes.sum, entries.length⟩

theorem capture_eq :
    capture setting model identity options.chunkBytes options.queueDepth options.replace =
      (checkOptions options.chunkBytes options.queueDepth).bind fun _ =>
        finallyDo ((publishBlob setting model identity options.chunkBytes.toNat
          options.replace).bind (publishRest setting)) cleanUp := rfl

theorem entriesOf_nbytes (memory : Int → UInt8) (groups : List Group) :
    mapEach (fun entry : Dict => entry.int "nbytes") (entriesOf memory groups) =
      .ok ((layoutFrom 0 groups).map fun item => (item.1.tensor.storage.nbytes : Int)) :=
  mapEach_map fun _ _ => rfl

include refuses in
/-- A capture which returns has published the artifact. -/
theorem capture_keeps (fails : ∀ error, storageGroups model = .error error → regime.allowed) :
    regime.Keeps (fun _ => True) (fun world => world = start)
      (capture setting model identity options.chunkBytes options.queueDepth options.replace)
      fun _ world => ∃ groups, storageGroups model = .ok groups ∧
        Published setting identity start.memory groups world := by
  apply Contract.through fun _ world => world = start
  · apply Triple.consequence (checkOptions_keeps options)
    · exact fun world starts => starts.symm
    · exact fun _ _ => trivial
    · exact fun _ _ ends => ends.symm
    · exact fun _ _ stopped => ⟨trivial, stopped.2⟩
  intro _
  apply finallyDo_triple
  · apply Contract.through fun entries world =>
      Described model start.memory entries (Half setting identity · start world)
    · apply Triple.consequence (publishBlob_triple options refuses fails)
      · exact fun world starts => starts.2
      · exact fun _ _ => trivial
      · exact fun _ _ ends => ⟨trivial, ends⟩
      · exact fun _ _ stopped => ⟨trivial, stopped.2⟩
    intro entries
    apply Contract.fixing
    intro groups
    apply Contract.assuming
    intro grouping
    apply Contract.assuming
    rintro rfl
    apply Contract.through fun _ => Published setting identity start.memory groups
    · apply act_keeps
      intro world _ half
      rcases half.pending with ⟨file, present, _⟩
      simp only [present]
      exact ⟨trivial, publishManifest half present⟩
    intro _
    apply Contract.bind quiet_keeps
    intro _
    apply Contract.bindReturns (by rw [entriesOf_nbytes]; rfl)
    exact .pure fun _ _ published => ⟨groups, grouping, published⟩
  · intro metrics
    apply cleanUp_stable
    rintro world now frame ⟨groups, grouping, published⟩
    exact ⟨groups, grouping, frame.published published⟩
  · exact cleanUp_stable fun _ _ _ => id

/-! ## Where a capture can be stopped -/

def Torn (model : Model) (identity : Json) (options : CaptureOptions setting) (start : World)
    (schedule : List (Label → Option Stop)) : Prop :=
  let run := ((checkOptions options.chunkBytes options.queueDepth).bind fun _ =>
    publishBlob setting model identity options.chunkBytes.toNat options.replace) start schedule
  (∃ entries, run.result = .ok entries) ∧
    (Program.raised (.replace .manifest) run.schedule).isSome = true

/-- Behind the rename of the manifest nothing changes any more. -/
theorem publishRest_state {entries : List Dict} {world : World} {file : File}
    (present : world.files .temporaryManifest = some file) (schedule : List (Label → Option Stop)) :
    (publishRest setting entries world schedule).state =
      match Program.raised (.replace .manifest) schedule with
      | some _ => world
      | none => (world.setFile .temporaryManifest none).setFile .manifest (some file) := by
  have still : ∀ now : World, wild.Still now ((quiet .syncDirectory).bind fun _ =>
      (lift (mapEach (fun entry : Dict => entry.int "nbytes") entries)).bind
        fun sizes => pure (⟨sizes.sum, entries.length⟩ : Metrics)) := by
    intro now
    apply Contract.bind quiet_keeps
    intro _
    apply bindLift fun _ _ => trivial
    intro _ _
    exact .pure fun _ _ _ => trivial
  cases renamed : Program.raised (.replace .manifest) schedule with
  | some stop =>
    have stopped : replaceFile setting .temporaryManifest .manifest world schedule =
        ⟨.error stop, world, schedule.tail, [world]⟩ := by
      simp [replaceFile, act, Program.operation, renamed]
    have ends : publishRest setting entries world schedule = _ :=
      Program.bind_of_error (congrArg Run.result stopped)
    rw [ends, stopped]
  | none =>
    have done : replaceFile setting .temporaryManifest .manifest world schedule =
        ⟨.ok (), (world.setFile .temporaryManifest none).setFile .manifest (some file),
          schedule.tail,
          [(world.setFile .temporaryManifest none).setFile .manifest (some file)]⟩ := by
      simp only [replaceFile, act, Program.operation, renamed, present]
      rfl
    have goes : publishRest setting entries world schedule = _ :=
      Program.bind_of_ok (congrArg Run.result done)
    rw [goes, done]
    exact (still _).inFrame rfl trivial fun _ _ => trivial

theorem capture_cases {schedule : List (Label → Option Stop)} {ending : World}
    (ends : (capture setting model identity options.chunkBytes options.queueDepth options.replace
      start schedule).state = ending) :
    (¬Torn model identity options start schedule ∧ Frame start ending) ∨
    (Torn model identity options start schedule ∧ ∃ groups, storageGroups model = .ok groups ∧
      ∃ middle, Half setting identity groups start middle ∧ Frame middle ending) ∨
    (¬Torn model identity options start schedule ∧ ∃ groups, storageGroups model = .ok groups ∧
      Published setting identity start.memory groups ending) := by
  subst ends
  rw [capture_eq]
  have checks := @checkOptions_keeps wild setting start options
  have same : (checkOptions options.chunkBytes options.queueDepth start schedule).state = start :=
    checks.inFrame rfl trivial fun _ _ => trivial
  unfold Torn
  cases checked : (checkOptions options.chunkBytes options.queueDepth start schedule).result with
  | error stop =>
    left
    rw [Program.bind_of_error checked, Program.bind_of_error checked]
    refine ⟨?_, by rw [same]; exact .refl _⟩
    rintro ⟨⟨entries, returned⟩, _⟩
    cases returned
  | ok _ =>
    rw [Program.bind_of_ok checked, Program.bind_of_ok checked, same]
    generalize (checkOptions options.chunkBytes options.queueDepth start schedule).schedule = rest
    simp only
    let publish := publishBlob setting model identity options.chunkBytes.toNat options.replace
    have ran := @publishBlob_triple _ wild setting start model identity options
      (refuseExisting_still trivial) (fun _ _ => trivial) start rest rfl fun _ _ => trivial
    have cleaned := finallyDo_frame (publish.bind (publishRest setting)) start rest
    cases published : (publish start rest).result with
    | error stop =>
      rw [published] at ran
      rw [Program.bind_of_error published] at cleaned
      left
      refine ⟨?_, ran.2.2.1.trans cleaned⟩
      rintro ⟨⟨entries, returned⟩, _⟩
      cases returned
    | ok entries =>
      rw [published] at ran
      rcases ran.2.2 with ⟨groups, grouping, _, half⟩
      rcases half.pending with ⟨file, present, _⟩
      rw [Program.bind_of_ok published] at cleaned
      rw [publishRest_state present] at cleaned
      right
      cases renamed : Program.raised (.replace .manifest) (publish start rest).schedule with
      | some stop =>
        rw [renamed] at cleaned
        exact .inl ⟨⟨⟨entries, rfl⟩, rfl⟩, groups, grouping, _, half, cleaned⟩
      | none =>
        rw [renamed] at cleaned
        refine .inr ⟨?_, groups, grouping, cleaned.published (publishManifest half present)⟩
        rintro ⟨_, torn⟩
        cases torn

end Publish

end Coldsnap.Artifact
