import Coldsnap.Artifact.Restore
import Coldsnap.Foundation.Contract

/-! # Contracts of the operations

What the operations on an artifact keep and establish, under schedules of
exceptions and kills of any kind or under none.
-/

namespace Coldsnap.Artifact

open Python Program List Bytes

abbrev Regime := Program.Regime Label Stop

def Regime.silent : Regime where
  plan _ := False
  allowed := False
  tolerates := fun planned _ => planned

def Regime.undisturbed : Regime where
  plan _ := False
  allowed := True
  tolerates := fun _ _ => trivial

def Regime.wild : Regime where
  plan _ := True
  allowed := True
  tolerates := fun _ _ => trivial

section Contracts

variable {regime : Regime} {frame : World → Prop} {α : Type} {label : Label}
  {before : World → Prop} {after : α → World → Prop}

theorem act_keeps {effect : World → Checked α × World}
    (acts : ∀ world, frame world → before world → frame (effect world).2 ∧
      Settles (effect world).1 (fun value => after value (effect world).2) regime.allowed) :
    regime.Keeps frame before (act label effect) after := by
  apply Contract.operation
  intro world holds starts
  have outcome := acts world holds starts
  refine ⟨outcome.1, ?_⟩
  revert outcome
  cases (effect world).1 with
  | ok value => exact fun outcome => outcome.2
  | error error => exact fun outcome => outcome.2

theorem ask_keeps {answer : World → Checked α} (answers : ∀ world, frame world → before world →
      Settles (answer world) (fun value => after value world) regime.allowed) :
    regime.Keeps frame before (ask label answer) after :=
  act_keeps fun world holds starts => ⟨holds, answers world holds starts⟩

theorem quiet_keeps : regime.Keeps frame before (quiet label) fun _ => before :=
  ask_keeps fun _ _ => id

theorem bindCheck {condition : Bool} {error : PyError} {next : Unit → Action α}
    (fails : condition = false → regime.allowed)
    (nextKeeps : condition = true → regime.Keeps frame before (next ()) after) :
    regime.Keeps frame before ((require condition error).bind next) after := by
  apply Contract.bindRequire
  · exact fun failed _ _ _ => fails failed
  · exact nextKeeps

theorem bindLift {β : Type} {computed : Checked α} {next : α → Action β}
    {after : β → World → Prop} (fails : ∀ error, computed = .error error → regime.allowed)
    (nextKeeps : ∀ value, computed = .ok value → regime.Keeps frame before (next value) after) :
    regime.Keeps frame before ((lift computed).bind next) after := by
  cases outcome : computed with
  | ok value =>
    exact nextKeeps value outcome
  | error error =>
    apply Contract.bindExcept
    · exact fun _ _ _ _ _ => fails error outcome
    · exact nofun

variable {body : Action α} {handler : PyError → Action α} {kinds : List ErrorKind}

/-- A handler which starts where the body started, since the body failed without
effect. -/
theorem catching_again
    (bodyTriple : Triple regime.plan frame (fun world => frame world ∧ before world) body
      (fun value world => frame world ∧ after value world)
      fun _ world => (frame world ∧ before world) ∧ regime.allowed)
    (handlerKeeps : ∀ error, error.kind ∈ kinds →
      regime.Keeps frame (fun world => before world ∧ regime.allowed) (handler error) after) :
    regime.Keeps frame before (catching kinds body handler) after := by
  have gives : ∀ stop, Triple regime.plan frame
      (fun world => (frame world ∧ before world) ∧ regime.allowed) (Program.raise stop)
      (fun value world => frame world ∧ after value world)
      fun _ world => frame world ∧ regime.allowed :=
    fun stop => .raise fun _ caught => ⟨caught.1.1, caught.2⟩
  apply Triple.recover bodyTriple
  intro stop
  cases stop with
  | killed => exact gives .killed
  | raised error =>
    simp only
    split
    · rename_i caught
      apply Triple.starting _ (handlerKeeps error caught)
      exact fun world starts => ⟨starts.1.1, starts.1.2, starts.2⟩
    · exact gives (.raised error)

theorem catching_keeps (bodyKeeps : regime.Keeps frame before body after) (handlerKeeps : ∀ error,
      regime.Keeps frame (fun _ => regime.allowed) (handler error) after) :
    regime.Keeps frame before (catching kinds body handler) after := by
  apply Contract.recover bodyKeeps
  intro stop
  cases stop with
  | killed => exact .raise fun _ _ => id
  | raised error =>
    simp only
    split
    · exact handlerKeeps error
    · exact .raise fun _ _ => id

variable {cleanup : Action Unit}

/-- The cleanup runs unless the process is killed. -/
theorem finallyDo_triple {plan : (Label → Option Stop) → Prop} {always : World → Prop}
    {failed : World → Prop} (bodyTriple : Triple plan always before body after fun _ => failed)
    (cleans : ∀ value, Triple plan always (after value) cleanup (fun _ => after value)
      fun _ => failed)
    (cleansUp : Triple plan always failed cleanup (fun _ => failed) fun _ => failed) :
    Triple plan always before (finallyDo body cleanup) after fun _ => failed := by
  apply Triple.bind (.recover bodyTriple ?_)
  · intro value
    apply Triple.bind (cleans value)
    intro _
    exact .pure fun _ => id
  · intro stop
    cases stop with
    | killed => exact .raise fun _ => id
    | raised error =>
      apply Triple.bind cleansUp
      intro _
      exact .raise fun _ => id

end Contracts

/-! ## Capturing changes temporary files only -/

def Path.isTemporary : Path → Bool
  | .temporaryManifest => true
  | .temporaryBlob => true
  | _ => false

structure Frame (start now : World) : Prop where
  files : ∀ path, path.isTemporary = false → now.files path = start.files path
  memory : now.memory = start.memory
  copies : now.copies = start.copies

theorem Frame.refl (start : World) : Frame start start := ⟨fun _ _ => rfl, rfl, rfl⟩

theorem Frame.trans {start middle now : World} (first : Frame start middle)
    (second : Frame middle now) : Frame start now where
  files path lasting := (second.files path lasting).trans (first.files path lasting)
  memory := second.memory.trans first.memory
  copies := second.copies.trans first.copies

theorem Frame.setFile {start now : World} (frame : Frame start now) {path : Path}
    (temporary : path.isTemporary = true) (file : Option File) :
    Frame start (now.setFile path file) where
  files other lasting := by
    have different : other ≠ path := by
      rintro rfl
      cases temporary.symm.trans lasting
    exact (Function.update_of_ne different ..).trans (frame.files other lasting)
  memory := frame.memory
  copies := frame.copies

/-- The file under a path has its final size, and starts with the given bytes. -/
def Written (path : Path) (total : Nat) (done : List UInt8) (world : World) : Prop :=
  ∃ file, world.files path = some file ∧ file.size = total ∧ slice file.byte 0 done.length = done

def Document (path : Path) (value : Json) (world : World) : Prop :=
  ∃ file, world.files path = some file ∧ file.document = some value

section Temporaries

variable {regime : Regime} {setting : Setting} {start : World} {path : Path}

section

variable (temporary : path.isTemporary = true)

include temporary

variable {before : World → Prop} {after : World → Prop}

theorem create_keeps
    (creates : ∀ world, before world → after (world.setFile path (some ⟨0, fun _ => 0, none⟩))) :
    regime.Keeps (Frame start) before (create path) fun _ => after :=
  act_keeps fun world holds starts => ⟨holds.setFile temporary _, creates world starts⟩

theorem preallocate_keeps {size : Nat} :
    regime.Keeps (Frame start) (Written path 0 []) (preallocate setting path size) fun _ =>
      Written path size [] := by
  apply act_keeps
  rintro world holds ⟨file, present, empty, _⟩
  simp only [present]
  refine ⟨holds.setFile temporary _, ?_⟩
  exact ⟨_, World.setFile_same .., by rw [empty, Nat.zero_max], rfl⟩

/-- Writing behind what is there extends it. -/
theorem write_keeps {total : Nat} {done bytes : List UInt8}
    (fits : done.length + bytes.length ≤ total) (small : bytes.length ≤ transferLimit) :
    regime.Keeps (Frame start) (Written path total done)
      (write setting path done.length bytes) fun position world =>
        position = done.length + bytes.length ∧ Written path total (done ++ bytes) world := by
  apply act_keeps
  rintro world holds ⟨file, present, size, prior⟩
  simp only [present, take_of_length_le small]
  refine ⟨holds.setFile temporary _, ?_, ?_⟩
  · rw [Nat.min_eq_left small]
  · refine ⟨_, World.setFile_same .., ?_, ?_⟩
    · simp only [File.store]
      omega
    · rw [length_append]
      simp only [File.store]
      rw [slice_append, Int.zero_add, slice_put, put,
        slice_overwrite_apart _ _ (.inl (by omega)), prior]

theorem writeDocument_keeps {value : Json}
    (present : ∀ world, before world → world.files path ≠ none) (writes : ∀ (world : World) (file :
      File), before world → after (world.setFile path (some ⟨file.size, file.byte, some value⟩))) :
    regime.Keeps (Frame start) before (writeDocument setting path value) fun _ => after := by
  apply act_keeps
  intro world holds starts
  rcases Option.ne_none_iff_exists'.mp (present world starts) with ⟨file, found⟩
  simp only [found]
  exact ⟨holds.setFile temporary _, writes world file starts⟩

end

end Temporaries

end Coldsnap.Artifact
