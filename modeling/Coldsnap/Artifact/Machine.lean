import Coldsnap.Artifact.Tensors
import Coldsnap.Foundation.Bytes
import Coldsnap.Foundation.Program

/-! # The directory of an artifact

The files of an artifact, the device memory of the process, and the operations a
capture or a restore performs on them. Every operation may raise instead of
taking effect, and the process may be killed before it.
-/

namespace Coldsnap.Artifact

open Python Program Bytes

/-- The temporary files carry the process id of the capture. -/
inductive Path where
  | manifest
  | blob
  | temporaryManifest
  | temporaryBlob
  | external (name : String)
deriving DecidableEq, Repr

structure File where
  size : Nat
  byte : Int → UInt8
  document : Option Json

structure World where
  memory : Int → UInt8
  files : Path → Option File
  copies : List (Int × Int)

inductive Label where
  | makeDirectory
  | lock
  | unlock
  | openFile (path : Path)
  | stat
  | preallocate
  | allocateStage
  | copyToHost
  | copyToDevice
  | write
  | read
  | syncFile
  | captureNative
  | hydrate
  | synchronize
  | validate
  | replace (path : Path)
  | syncDirectory
  | unlink (path : Path)
deriving DecidableEq, Repr

/-- Why a run ends early. Nothing catches a kill. -/
inductive Stop where
  | raised (error : PyError)
  | killed
deriving DecidableEq, Repr

abbrev Action (α : Type) := Program Label World Stop α

/-- The environment of a process. `canonicalJson` encodes a document, `validation` is
the check of an external record about a blob with a given digest. -/
structure Setting where
  root : String
  canonicalJson : Json → List UInt8
  captureTransport : Bool
  hydrator : Option String
  directAvailable : Bool
  validation : String → Option File → Checked Unit

def Setting.path (setting : Setting) : Path → String
  | .manifest => setting.root ++ "/manifest.json"
  | .blob => setting.root ++ "/weights.blob"
  | .temporaryManifest => setting.root ++ "/.manifest.json.tmp"
  | .temporaryBlob => setting.root ++ "/.weights.blob.tmp"
  | .external name => name

def lift {α : Type} (computed : Checked α) : Action α :=
  ofExcept (computed.mapError Stop.raised)

def require (condition : Bool) (error : PyError) : Action Unit :=
  Program.require condition (.raised error)

instance : Machine Label World PyError Stop where
  act label effect := operation label fun world =>
    ((effect world).1.mapError Stop.raised, (effect world).2)

def World.setFile (world : World) (path : Path) (file : Option File) : World :=
  { world with files := Function.update world.files path file }

@[simp] theorem World.setFile_same (world : World) (path : Path) (file : Option File) :
    (world.setFile path file).files path = file :=
  Function.update_self ..

def missing (setting : Setting) (path : Path) : PyError :=
  ⟨.fileNotFoundError, "No such file or directory: " ++ setting.path path⟩

/-- The kernel moves at most this many bytes in one call. -/
def transferLimit : Nat := 2147479552

section Files

variable (setting : Setting) (path : Path)

def create : Action Unit :=
  act (.openFile path) fun world => (.ok (), world.setFile path (some ⟨0, fun _ => 0, none⟩))

def openForReading : Action Unit :=
  ask (.openFile path) fun world =>
    match world.files path with
    | some _ => .ok ()
    | none => .error (missing setting path)

def stat : Action Nat :=
  ask .stat fun world =>
    match world.files path with
    | some file => .ok file.size
    | none => .error (missing setting path)

def preallocate (size : Nat) : Action Unit :=
  act .preallocate fun world =>
    match world.files path with
    | some file => (.ok (), world.setFile path (some { file with size := max file.size size }))
    | none => (.error (missing setting path), world)

def File.store (file : File) (position : Nat) (bytes : List UInt8) : File where
  size := max file.size (position + bytes.length)
  byte := put file.byte position bytes
  document := none

def write (position : Nat) (bytes : List UInt8) : Action Nat :=
  act .write fun world =>
    match world.files path with
    | some file => (.ok (position + min bytes.length transferLimit),
        world.setFile path (some (file.store position (bytes.take transferLimit))))
    | none => (.error (missing setting path), world)

def readInto (position : Int) (count : Nat) : Action (List UInt8) :=
  ask .read fun world =>
    match world.files path with
    | some file => .ok (slice file.byte position
        (min (min count transferLimit) (file.size - position).toNat))
    | none => .error (missing setting path)

def writeDocument (value : Json) : Action Unit :=
  act .write fun world =>
    match world.files path with
    | some file => (.ok (), world.setFile path (some { file with document := some value }))
    | none => (.error (missing setting path), world)

def replaceFile (source target : Path) : Action Unit :=
  act (.replace target) fun world =>
    match world.files source with
    | some file => (.ok (), (world.setFile source none).setFile target (some file))
    | none => (.error (missing setting source), world)

def discard : Action Unit :=
  act (.unlink path) fun world => (.ok (), world.setFile path none)

end Files

def copyToHost (pointer : Int) (count : Nat) : Action (List UInt8) :=
  ask .copyToHost fun world => .ok (slice world.memory pointer count)

def World.store (world : World) (pointer : Int) (bytes : List UInt8) : World :=
  { world with
    memory := put world.memory pointer bytes
    copies := world.copies ++ [(pointer, pointer + bytes.length)] }

def copyToDevice (pointer : Int) (bytes : List UInt8) : Action Unit :=
  act .copyToDevice fun world => (.ok (), world.store pointer bytes)

def catching {α : Type} (kinds : List ErrorKind) (body : Action α) (handler : PyError → Action α) :
    Action α :=
  recover body fun stop => match stop with
    | .killed => raise .killed
    | .raised error =>
      if error.kind ∈ kinds then handler error else raise (.raised error)

def finallyDo {α : Type} (body : Action α) (cleanup : Action Unit) : Action α :=
  (recover body fun stop => match stop with
    | .killed => raise .killed
    | .raised error => cleanup.bind fun _ => raise (.raised error)).bind fun value =>
      cleanup.bind fun _ => pure value

theorem finallyDo_state {α : Type} (body : Action α) (cleanup : Action Unit) (world : World)
    (schedule : List (Label → Option Stop)) :
    (finallyDo body cleanup world schedule).state = (body world schedule).state ∨
      (finallyDo body cleanup world schedule).state =
        (cleanup (body world schedule).state (body world schedule).schedule).state := by
  simp only [finallyDo, Program.bind, recover]
  cases outcome : (body world schedule).result with
  | ok value =>
    right
    simp only [outcome]
    cases (cleanup (body world schedule).state (body world schedule).schedule).result <;> rfl
  | error stop =>
    cases stop with
    | killed => exact .inl rfl
    | raised error =>
      simp only [Program.bind]
      cases cleaned : (cleanup (body world schedule).state
        (body world schedule).schedule).result with
      | ok _ => simp [raise]
      | error stop => simp

end Coldsnap.Artifact
