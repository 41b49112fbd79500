import Coldsnap.DiskBackend.Operations

/-! # File operations

Calls into the operating system, one definition for each. A failed call has no
effect and a successful one is durable. Transfers may be short, so reads and
writes of a whole buffer loop until they are complete.
-/

namespace Coldsnap.DiskBackend

open Python Intervals Program List

variable (nature : Nature) (setting : Setting) (path : Path) (stage : HostStage)

def World.setFile (world : World) (path : Path) (file : Option File) : World :=
  { world with files := Function.update world.files path file }

def missing : PyError := ⟨.fileNotFoundError, path.name⟩

def onFile {α : Type} (label : Label) (path : Path) (change : World → File → α × File) : Action α :=
  act label fun world =>
    match world.files path with
    | none => (.error (missing path), world)
    | some file =>
      (.ok (change world file).1, world.setFile path (some (change world file).2))

def isFile : Action Bool :=
  ask .isFile fun world => .ok (world.files path).isSome

def askFile {α : Type} (label : Label) (answer : World → File → Checked α) : Action α :=
  ask label fun world =>
    match world.files path with
    | none => .error (missing path)
    | some file => answer world file

def readText : Action String :=
  askFile path .readText fun _ file =>
    match file.meaning with
    | .raw => .error (valueError "invalid start byte")
    | .text value => .ok value
    | .document _ => .ok ""

def readDocument : Action Json :=
  askFile path .readText fun _ file =>
    match file.meaning with
    | .raw => .error (valueError "invalid start byte")
    | .text _ => .error ⟨.jsonDecodeError, "Expecting value"⟩
    | .document value => .ok value

def unlink : Action Unit :=
  act .unlink fun world => (.ok (), world.setFile path none)

def syncDirectory : Action Unit := quiet .syncDirectory

def statIdentity : Action Stat := askFile path .stat fun _ file => .ok file.stat

def emptyFile (tick : Nat) : File :=
  ⟨0, fun _ => 0, .raw, 0, tick, tick, tick⟩

/-- Open for writing, creating or truncating. The answer says whether the
descriptor bypasses the page cache. -/
def openForWriting (direct : Bool) : Action Bool :=
  act .openFile fun world =>
    (.ok (direct && nature.opensDirect world.tick),
      world.setFile path (some (emptyFile world.tick)))

def openForReading (direct : Bool) : Action Bool :=
  askFile path .openFile fun world _ => .ok (direct && nature.opensDirect world.tick)

def closeFile : Action Unit := quiet .close

def preallocate (size : Int) : Action Unit := do
  ofExcept (Checked.require (0 < size) (valueError "snapshot preallocation size must be positive"))
  onFile .preallocate path fun _ file => ((), { file with size := max file.size size })

def File.store (file : File) (offset : Int) (count : Nat) (byte : Nat → UInt8) (tick : Nat) :
    File :=
  { file with
    size := max file.size (offset + count)
    byte := Bytes.overwrite file.byte offset count byte
    meaning := .raw
    modified := tick
    changed := tick }

def pwritev (written remaining : Nat) (offset : Int) : Action Nat :=
  onFile .write path fun world file =>
    (min (nature.transfer world.tick + 1) remaining,
      file.store offset (min (nature.transfer world.tick + 1) remaining)
        (fun position => world.stages stage.index (written + position)) world.tick)

def writeAllFrom (count : Nat) (offset : Int) : (rounds written : Nat) → Action Unit
  | 0, _ => pure ()
  | rounds + 1, written =>
    if written < count then do
      let moved ← pwritev nature path stage written (count - written) (offset + written)
      writeAllFrom count offset rounds (written + moved)
    else pure ()

def writeAllAt (count : Nat) (offset : Int) : Action Unit :=
  writeAllFrom nature path stage count offset count 0

def World.fillStage (world : World) (stage : Nat) (start count : Nat) (file : File)
    (offset : Int) : World :=
  { world with stages := fun index position =>
      if index = stage ∧ start ≤ position ∧ position < start + count then
        file.byte (offset + (position - start : Nat))
      else world.stages index position }

def File.readable (file : File) (offset : Int) (limit : Nat) : Nat :=
  min limit (file.size - offset).toNat

def preadv (done remaining : Nat) (offset : Int) : Action Nat :=
  act .read fun world =>
    match world.files path with
    | none => (.error (missing path), world)
    | some file =>
      let count := file.readable offset (min (nature.transfer world.tick + 1) remaining)
      (.ok count, world.fillStage stage.index done count file offset)

def readExactFrom (count : Nat) (offset : Int) : (rounds done : Nat) → Action Unit
  | 0, _ => pure ()
  | rounds + 1, done =>
    if done < count then do
      let moved ← preadv nature path stage done (count - done) (offset + done)
      if moved = 0 then
        raise ⟨.eofError, s!"snapshot ended at offset {offset + done}; wanted {count} bytes"⟩
      else readExactFrom count offset rounds (done + moved)
    else pure ()

def readExactAt (count : Nat) (offset : Int) : Action Unit :=
  readExactFrom nature path stage count offset count 0

def fdatasync : Action Unit := quiet .fdatasync

def dropCache : Action Unit := quiet .dropCache

def replaceFile (source target : Path) : Action Unit :=
  act .replace fun world =>
    match world.files source with
    | none => (.error (missing source), world)
    | some file =>
      (.ok (), (world.setFile source none).setFile target
        (some { file with changed := world.tick }))

def chmod : Action Unit :=
  onFile .chmod path fun world file => ((), { file with changed := world.tick })

def documentFile (value : Json) (file : File) (tick : Nat) : File :=
  { file with
    size := (nature.encode value).length
    byte := fun position => (nature.encode value).getD position.toNat 0
    meaning := .document value
    modified := tick
    changed := tick }

def atomicJson (value : Json) : Action Unit := do
  let _ ← openForWriting nature path.temporary false
  onFile .writeDocument path.temporary fun world file =>
    ((), documentFile nature value file world.tick)
  fdatasync
  replaceFile path.temporary path
  syncDirectory

def ensureSpace (required : Int) : Action Unit := do
  let available ← ask .statvfs fun world => .ok (nature.available world.tick)
  require (!(available < required + setting.reserveBytes))
    (osError "snapshot needs more space than is free")

def hostStages (count : Nat) : Action (List HostStage) := do
  let allocated ← backend (·.stageCount)
  forEach (fun _ => do
    quiet .allocateHostStage
    onBackend fun fields => { fields with stageCount := fields.stageCount + 1 })
    (range (count - allocated))
  return (range count).map fun index => ⟨index, setting.chunkBytes⟩

def hostStage : Action HostStage := do
  let _ ← hostStages setting 1
  return ⟨0, setting.chunkBytes⟩

def stageBytes (count : Nat) : Action (List UInt8) :=
  read fun world => (range count).map (world.stages stage.index)

end Coldsnap.DiskBackend
