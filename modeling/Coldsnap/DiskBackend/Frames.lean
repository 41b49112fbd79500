import Coldsnap.DiskBackend.Capture
import Coldsnap.Foundation.Contract

/-! # What the capture operations leave alone

Capturing reads device memory and writes a few files. The frame says so at
every moment of a run, and the contracts of the single operations add what they
establish when they return.
-/

namespace Coldsnap.DiskBackend

open Python Program

/-- In addition, whether memory is touched without knowing that it is mapped. -/
structure Regime extends Program.Regime Label PyError where
  careless : Prop
  careful : careless → allowed

abbrev Regime.Reaches (regime : Regime) (setting : Setting) (device : Device)
    (pointer size : Int) : Prop :=
  regime.careless ∨ device.accessible setting.pool pointer size = true

def Regime.calm : Regime where
  plan entry := ∀ label, entry label = none
  allowed := False
  careless := False
  tolerates := fun quiet raises => nomatch (quiet _).symm.trans raises
  careful := id

def Regime.wild : Regime where
  plan _ := True
  allowed := True
  careless := True
  tolerates := fun _ _ => trivial
  careful := id

/-- Every planned exception is possible; memory is only touched where mapped. -/
def Regime.guarded (plan : (Label → Option PyError) → Prop) : Regime where
  plan := plan
  allowed := True
  careless := False
  tolerates := fun _ _ => trivial
  careful := fun _ => trivial

def Device.holdsWeights (device : Device) (setting : Setting) : Prop :=
  ∀ allocation ∈ setting.weights, device.mapped allocation.pointer = true

def World.ticked (world : World) : World := { world with tick := world.tick + 1 }

/-- The state differs from `start` at most in the touched files, in the host
stages, in the clock and in the mark that the model payload was exported. -/
structure Frame (careless : Prop) (touched : Path → Prop) (start now : World) : Prop where
  files : ∀ path, ¬touched path → now.files path = start.files path
  device : now.device = { start.device with hazards := now.device.hazards }
  hazards : careless ∨ now.device.hazards = start.device.hazards
  backend : now.backend = { start.backend with
    stageCount := now.backend.stageCount
    modelPayloadExported := now.backend.modelPayloadExported }

namespace Frame

variable {careless : Prop} {touched : Path → Prop} {start now next : World}

theorem refl (careless : Prop) (touched : Path → Prop) (start : World) :
    Frame careless touched start start :=
  ⟨fun _ _ => rfl, rfl, .inr rfl, rfl⟩

section

variable (frame : Frame careless touched start now)

include frame

theorem memory : now.device.memory = start.device.memory := by
  rw [frame.device]

theorem field {α : Type} {project : Backend → α}
    (blind : ∀ fields stageCount exported, project { fields with
      stageCount := stageCount
      modelPayloadExported := exported } = project fields) :
    project now.backend = project start.backend := by
  rw [frame.backend]
  exact blind _ _ _

theorem accessible (pool : List Allocation) (pointer count : Int) :
    now.device.accessible pool pointer count = start.device.accessible pool pointer count := by
  rw [frame.device]
  rfl

omit frame in
theorem trans {inner : Path → Prop} (first : Frame careless touched start now)
    (second : Frame careless inner now next) (smaller : ∀ path, inner path → touched path) :
    Frame careless touched start next where
  files path free := (second.files path fun inside => free (smaller path inside)).trans
    (first.files path free)
  device := by rw [second.device, first.device]
  hazards := by
    rcases first.hazards with holds | kept
    · exact .inl holds
    · exact second.hazards.imp_right fun keptLater => keptLater.trans kept
  backend := by rw [second.backend, first.backend]

theorem ticked : Frame careless touched start now.ticked :=
  { frame with }

theorem setFile {path : Path} (inside : touched path) (file : Option File)
    : Frame careless touched start (now.setFile path file) := by
  refine { frame with files := fun other free => ?_ }
  have different : other ≠ path := fun equal => free (equal ▸ inside)
  simp [World.setFile, different, frame.files other free]

theorem hazard (holds : careless) (risk : Hazard) :
    Frame careless touched start { now with device := now.device.hazard risk } where
  __ := frame
  device := by
    rw [frame.device]
    rfl
  hazards := .inl holds

end

end Frame

/-! ## Contracts of the operations -/

section Contracts

variable (regime : Regime) (nature : Nature) (setting : Setting)
variable {touched : Path → Prop} {start : World} {frame : World → Prop}

variable {regime} {α : Type} {label : Label} {before : World → Prop} {after : α → World → Prop}

theorem act_keeps {effect : World → Checked α × World}
    (acts : ∀ world, frame world → before world → frame (effect world).2.ticked ∧
      Settles (effect world).1 (fun value => after value (effect world).2.ticked)
        regime.allowed) : regime.Keeps frame before (act label effect) after :=
  .operation acts

theorem ask_keeps {answer : World → Checked α}
    (timeless : ∀ world, frame world → frame world.ticked)
    (answers : ∀ world, frame world → before world →
      Settles (answer world) (fun value => after value world.ticked) regime.allowed) :
    regime.Keeps frame before (ask label answer) after :=
  act_keeps fun world holds starts => ⟨timeless world holds, answers world holds starts⟩

theorem quiet_keeps (timeless : ∀ world, frame world → frame world.ticked)
    (stable : ∀ world, before world → before world.ticked) :
    regime.Keeps frame before (quiet label) fun _ => before :=
  act_keeps fun world holds starts => ⟨timeless world holds, stable world starts⟩

variable (regime)

abbrev Regime.Frame (touched : Path → Prop) (start : World) : World → Prop :=
  DiskBackend.Frame regime.careless touched start

/-- The program keeps to the touched files. -/
abbrev Regime.Within {α : Type} (touched : Path → Prop) (start : World)
    (before : World → Prop) (program : Action α) (after : α → World → Prop) : Prop :=
  regime.Keeps (regime.Frame touched start) before program after

variable {regime}

/-- Inside a frame which fixes it, a field of the backend is read as it was at the
start. -/
theorem bindBackend {β : Type} {project : Backend → α} {value : α}
    {next : α → Action β} {after : β → World → Prop}
    (fixed : ∀ world, frame world → before world → project world.backend = value)
    (nextContract : regime.Keeps frame before (next value) after) :
    regime.Keeps frame before (Program.bind (backend project) next) after := by
  have reads : regime.Keeps frame before (backend project) fun other world =>
      other = value ∧ before world :=
    .read fun world holds starts => ⟨fixed world holds starts, starts⟩
  apply Contract.bindKnown reads
  exact nextContract

/-- A contract relative to the state in which a program starts, used inside a
larger frame. -/
theorem reframe {inner : Path → Prop} (smaller : ∀ path, inner path → touched path)
    {program : Action α} {after : World → α → World → Prop}
    (relative : ∀ middle, regime.Frame touched start middle → before middle →
      regime.Within inner middle (fun _ => True) program (after middle)) :
    regime.Within touched start before program fun value world =>
      ∃ middle, (before middle ∧ regime.Frame inner middle world) ∧ after middle value world := by
  intro middle schedule holds planned
  have outer := holds.1
  have ran := relative middle outer holds.2 middle schedule
    ⟨DiskBackend.Frame.refl _ _ _, trivial⟩ planned
  refine ⟨ran.1, fun state visited => outer.trans (ran.2.1 state visited) smaller, ?_⟩
  have outcome := ran.2.2
  revert outcome
  cases (program middle schedule).result with
  | ok value => exact fun outcome => ⟨outer.trans outcome.1 smaller, middle,
      ⟨holds.2, outcome.1⟩, outcome.2⟩
  | error error => exact fun outcome => ⟨outer.trans outcome.1 smaller, outcome.2⟩

theorem onFile_keeps {path : Path} (inside : touched path) {change : World → File → α × File}
    (changes : ∀ world, regime.Frame touched start world → before world → ∃ file,
      world.files path = some file ∧ after (change world file).1
        (world.setFile path (some (change world file).2)).ticked) :
    regime.Within touched start before (onFile label path change) after := by
  refine act_keeps fun world holds starts => ?_
  obtain ⟨file, present, reached⟩ := changes world holds starts
  simp only [present]
  exact ⟨(holds.setFile inside _).ticked, reached⟩

end Contracts

end Coldsnap.DiskBackend
