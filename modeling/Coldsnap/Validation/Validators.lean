import Coldsnap.Foundation.Sha256
import Coldsnap.Foundation.Transitions

/-! # Validators of a payload

`_validate_payload_python` and `publish_validation_record` of
`integrations/core/coldsnap_core/validation.py`, run by any number of processes while
writers rename new files over the payload. Between any two calls of the system another
process may go on.
-/

namespace Coldsnap.Validation

structure Identity where
  device : Nat
  inode : Nat
  size : Nat
  mtimeNs : Int
deriving DecidableEq, Repr

/-- A file under the name of the payload. Writers replace it as a whole, so its bytes never
change. -/
structure Version where
  device : Nat
  inode : Nat
  mtimeNs : Int
  content : List UInt8
deriving DecidableEq, Repr

def Version.contentIdentity (version : Version) : Identity :=
  ⟨version.device, version.inode, version.content.length, version.mtimeNs⟩

/-- What a validator is asked; the digest has passed `normalize_sha256`. -/
structure Request where
  expectedSha256 : String
  expectedBytes : Nat
deriving DecidableEq, Repr

/-- The fields of a validation record which are not the same in all records. -/
structure Record where
  expectedSha256 : String
  expectedBytes : Nat
  contentIdentity : Identity
deriving DecidableEq, Repr

def recordMatches (record : Option Record) (request : Request) (identity : Identity) : Bool :=
  record = some ⟨request.expectedSha256, request.expectedBytes, identity⟩

def digestOf (content : List UInt8) : String := "sha256:" ++ Sha256.sha256 content

/-- How far a validator has come. Open descriptors keep their file. -/
inductive Phase where
  | idle
  | opened (request : Request) (version : Version)
  | hashing (request : Request) (version : Version) (before : Identity) (read : List UInt8)
  | verified (request : Request) (version : Version)
  | reopened (request : Request) (version found : Version)
  | accepted (request : Request) (version : Version)
  | failed
deriving DecidableEq, Repr

structure State where
  /-- The file under the name of the payload, and all files that ever were there. -/
  current : Version
  installed : List Version
  marker : Option Record
  phase : Nat → Phase
  /-- What has been published, and which files have been read to their ends with which
  digests. -/
  published : List Record
  hashed : List (Version × String)

def State.initial (version : Version) : State :=
  ⟨version, [version], none, fun _ => .idle, [], []⟩

inductive Event where
  | rename (version : Version)
  | start (process : Nat) (request : Request)
  | consult (process : Nat) (readable : Bool)
  | read (process count : Nat)
  | reopen (process : Nat)
  | replace (process : Nat)
  | fail (process : Nat)
deriving DecidableEq, Repr

def State.enter (state : State) (process : Nat) (phase : Phase) : State :=
  { state with phase := Function.update state.phase process phase }

def State.finish (state : State) (process : Nat) (request : Request) (version : Version)
    (before : Identity) (read : List UInt8) : State :=
  let logged := { state with hashed := (version, digestOf read) :: state.hashed }
  if before ≠ version.contentIdentity then logged.enter process .failed
  else if digestOf read ≠ request.expectedSha256 then logged.enter process .failed
  else logged.enter process (.verified request version)

def State.publish (state : State) (process : Nat) (request : Request) (version found : Version) :
    State :=
  let record : Record := ⟨request.expectedSha256, request.expectedBytes, found.contentIdentity⟩
  { state with marker := some record, published := record :: state.published }.enter process
    (.accepted request version)

def step (state : State) : Event → Option State
  | .rename version =>
    some { state with current := version, installed := version :: state.installed }
  | .start process request =>
    match state.phase process with
    | .idle =>
      if state.current.contentIdentity.size ≠ request.expectedBytes then
        some (state.enter process .failed)
      else some (state.enter process (.opened request state.current))
    | _ => none
  | .consult process readable =>
    match state.phase process with
    | .opened request version =>
      if recordMatches (if readable then state.marker else none) request
          version.contentIdentity then
        some (state.enter process (.accepted request version))
      else some (state.enter process (.hashing request version version.contentIdentity []))
    | _ => none
  | .read process count =>
    match state.phase process with
    | .hashing request version before read =>
      let chunk := (version.content.drop read.length).take (count + 1)
      if chunk = [] then some (state.finish process request version before read)
      else some (state.enter process (.hashing request version before (read ++ chunk)))
    | _ => none
  | .reopen process =>
    match state.phase process with
    | .verified request version =>
      if state.current.contentIdentity.size ≠ request.expectedBytes then
        some (state.enter process .failed)
      else some (state.enter process (.reopened request version state.current))
    | _ => none
  | .replace process =>
    match state.phase process with
    | .reopened request version found => some (state.publish process request version found)
    | _ => none
  | .fail process => some (state.enter process .failed)

end Coldsnap.Validation
