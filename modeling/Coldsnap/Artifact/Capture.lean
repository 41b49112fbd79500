import Coldsnap.Artifact.Machine
import Coldsnap.Foundation.Chunks
import Coldsnap.Foundation.Sha256

/-! # Capturing an artifact

`load_manifest` and `capture` of `SemanticTensorArtifact`. A capture writes the
storages and a manifest under temporary names and then renames the two files.
-/

namespace Coldsnap.Artifact

open Python Crc32 Sha256 Chunks Program List Bytes

def artifactFormat : Json := .int 1
def artifactKind : Json := .str "coldsnap-pytorch-semantic-weights"
def alignment : Nat := 4096

section Mismatches

variable [Builtins]

mutual

def identityMismatches : Json → Json → String → List String
  | .obj expected, .obj actual, path =>
    (sortedOn Prod.fst (mismatchedFields expected actual path ++
      (actual.filter fun field => field.1 ∉ expected.map Prod.fst).map fun field =>
        (field.1, [s!"{path}.{field.1} is unexpected"]))).flatMap Prod.snd
  | expected, actual, path =>
    if expected.equal actual then []
    else [s!"{path}: expected {Builtins.render expected}, found {Builtins.render actual}"]

def mismatchedFields : List (String × Json) → Dict → String → List (String × List String)
  | [], _, _ => []
  | (key, value) :: rest, actual, path =>
    (key, match Dict.lookup actual key with
      | none => [s!"{path}.{key} is missing"]
      | some other => identityMismatches value other (path ++ "." ++ key)) ::
    mismatchedFields rest actual path

end

end Mismatches

def readManifest (setting : Setting) : Action Json := do
  openForReading setting .manifest
  ask .read fun world =>
    match (world.files .manifest).bind File.document with
    | some document => .ok document
    | none => .error ⟨.jsonDecodeError, "Expecting value"⟩

def manifestUnreadable (setting : Setting) (error : PyError) : PyError :=
  artifactError (if error.kind = .fileNotFoundError then
      s!"artifact manifest is missing: {setting.path .manifest}"
    else s!"cannot read artifact manifest: {error.message}")

def blobMissing (setting : Setting) (path : Path) : PyError :=
  artifactError s!"artifact blob is missing: {setting.path path}"

def loadManifest [Builtins] (setting : Setting) (identity : Option Json)
    (blobPath : Option Path) (blobOffset : Int) : Action Dict := do
  let document ← catching [.fileNotFoundError, .osError, .jsonDecodeError] (readManifest setting)
    fun error => raise (.raised (manifestUnreadable setting error))
  let manifest ← lift (document.asDict.elim
    (.error ⟨.attributeError, "object has no attribute 'get'"⟩) .ok)
  require ((manifest.get "format").equal artifactFormat &&
    (manifest.get "kind").equal artifactKind)
    (artifactError "artifact format or kind is incompatible")
  let mismatches := identity.elim [] fun identity =>
    identityMismatches identity (manifest.get "identity") "identity"
  require (mismatches = [])
    (artifactError ("artifact compatibility mismatch: " ++ "; ".intercalate (mismatches.take 8)))
  let selected := blobPath.getD .blob
  require (0 ≤ blobOffset) (artifactError "artifact blob offset cannot be negative")
  let size ← catching [.fileNotFoundError] (stat setting selected)
    fun _ => raise (.raised (blobMissing setting selected))
  let blobBytes ← lift (manifest.getD "blob_bytes" (.int (-1))).toInt
  let expectedEnd := blobOffset + blobBytes
  require (if blobPath.isSome then expectedEnd ≤ (size : Int) else (size : Int) = expectedEnd)
    (artifactError ("artifact blob size mismatch: expected " ++
      (if blobPath.isSome then "at least " else "exactly ") ++
      s!"{expectedEnd}, found {size}"))
  return manifest

def align (value : Nat) : Nat := (value + alignment - 1) / alignment * alignment

/-- Where each storage goes: behind the one before, on the next boundary. -/
def layoutFrom : Nat → List Group → List (Group × Nat)
  | _, [] => []
  | position, group :: groups =>
    (group, align position) :: layoutFrom (align position + group.tensor.storage.nbytes) groups

def layoutEnd : Nat → List Group → Nat
  | position, [] => position
  | position, group :: groups =>
    layoutEnd (align position + group.tensor.storage.nbytes) groups

def entryRecord (offset nbytes : Nat) (crc sha : String) (refs : List Reference) : Dict :=
  [("offset", .int offset), ("nbytes", .int nbytes), ("crc32", .str crc), ("sha256", .str sha),
    ("refs", .arr (refs.map fun reference => .obj reference.toDict))]

/-- The stream position and the running digests of one storage and of the blob. -/
structure Progress where
  position : Nat
  crc : BitVec 32
  storage : List UInt8
  blob : List UInt8

/-- What was written so far: the records, `written_position`, the running digest. -/
structure Captured where
  entries : List Dict
  position : Nat
  blob : List UInt8

def allocateStage : Action Unit :=
  catching [.runtimeError] (quiet .allocateStage) fun _ => quiet .allocateStage

section Capture

variable (setting : Setting)

def captureChunk (pointer : Int) (progress : Progress) (piece : Nat × Nat) : Action Progress := do
  let view ← copyToHost (pointer + piece.1) piece.2
  let position ← write setting .temporaryBlob progress.position view
  return ⟨position, crc32 view progress.crc, progress.storage ++ view, progress.blob ++ view⟩

def captureStorage (stageSize : Nat) (captured : Captured) (item : Group × Nat) :
    Action Captured := do
  let storage := item.1.tensor.storage
  let padding := replicate (item.2 - captured.position) 0
  onlyIf (item.2 ≠ captured.position)
    ((write setting .temporaryBlob captured.position padding).bind fun _ => pure ())
  let progress ← foldEach (captureChunk setting storage.pointer)
    ⟨item.2, 0, [], captured.blob ++ padding⟩ (chunks stageSize storage.nbytes)
  return ⟨captured.entries ++ [entryRecord item.2 storage.nbytes (hex8 progress.crc)
      (sha256 progress.storage) item.1.refs],
    item.2 + storage.nbytes, progress.blob⟩

def largest (groups : List Group) : Nat :=
  (groups.map fun group => group.tensor.storage.nbytes).foldl max 0

def capturePython (groups : List Group) (chunkBytes : Nat) : Action (List Dict × String) := do
  let stageSize := min chunkBytes (largest groups)
  allocateStage
  create .temporaryBlob
  preallocate setting .temporaryBlob (layoutEnd 0 groups)
  let captured ← foldEach (captureStorage setting stageSize) ⟨[], 0, []⟩ (layoutFrom 0 groups)
  quiet .syncFile
  return (captured.entries, sha256 captured.blob)

/-- The bytes a native transport puts into the file: the storages at their offsets,
zeros between them. -/
def nativeBytes (memory : Int → UInt8) : Nat → List (Group × Nat) → List UInt8
  | _, [] => []
  | position, item :: items =>
    replicate (item.2 - position) 0 ++
      slice memory item.1.tensor.storage.pointer item.1.tensor.storage.nbytes ++
      nativeBytes memory (item.2 + item.1.tensor.storage.nbytes) items

def fileOf (bytes : List UInt8) : File where
  size := bytes.length
  byte position := bytes.getD position.toNat 0
  document := none

def nativeCapture (layout : List (Group × Nat)) :
    Action (List (String × String) × String × Nat × Nat) :=
  act .captureNative fun world =>
    let bytes := nativeBytes world.memory 0 layout
    let digests := layout.map fun item =>
      let view := slice world.memory item.1.tensor.storage.pointer item.1.tensor.storage.nbytes
      (hex8 (crc32 view 0), sha256 view)
    (.ok (digests, sha256 bytes,
        (layout.map fun item => item.1.tensor.storage.nbytes).sum, bytes.length),
      world.setFile .temporaryBlob (some (fileOf bytes)))

def captureWithTransport (groups : List Group) (chunkBytes : Nat) :
    Action (List Dict × String) := do
  let layout := layoutFrom 0 groups
  require (chunkBytes % alignment = 0)
    (valueError "native capture chunk size must be 4096-byte aligned")
  require (layout.all fun item =>
      0 < item.1.tensor.storage.pointer && 0 < item.1.tensor.storage.nbytes)
    (valueError "capture extent offset, source, and length are invalid")
  let (digests, blobSha256, bytes, fileBytes) ← nativeCapture layout
  require (bytes = (layout.map fun item => item.1.tensor.storage.nbytes).sum &&
      fileBytes = layoutEnd 0 groups)
    (artifactError "native capture returned an invalid byte contract")
  return ((layout.zip digests).map fun row => entryRecord row.1.2
    row.1.1.tensor.storage.nbytes row.2.1 row.2.2 row.1.1.refs, blobSha256)

def writeBlob (groups : List Group) (chunkBytes : Nat) : Action (List Dict × String) :=
  if setting.captureTransport then captureWithTransport groups chunkBytes
  else capturePython setting groups chunkBytes

def manifestRecord (identity : Json) (blobBytes : Nat) (blobSha256 : String)
    (entries : List Dict) : Dict :=
  [("format", artifactFormat), ("kind", artifactKind), ("identity", identity),
    ("identity_sha256", .str (sha256 (setting.canonicalJson identity))),
    ("blob", .str "weights.blob"), ("blob_bytes", .int blobBytes),
    ("blob_sha256", .str blobSha256), ("storages", .arr (entries.map .obj))]

variable [Builtins]

/-- Without `replace` a compatible artifact stays. -/
def refuseExisting (identity : Json) (replace : Bool) : Action Unit :=
  if replace then pure ()
  else do
    let compatible ← catching [.runtimeError]
      ((loadManifest setting (some identity) none 0).bind fun _ => pure true) fun _ => pure false
    require (!compatible) (artifactError "a compatible artifact already exists")

def writeFiles (model : Model) (identity : Json) (chunkBytes : Nat) : Action (List Dict) := do
  let groups ← lift (storageGroups model)
  let (entries, blobSha256) ← writeBlob setting groups chunkBytes
  create .temporaryManifest
  writeDocument setting .temporaryManifest
    (.obj (manifestRecord setting identity (layoutEnd 0 groups) blobSha256 entries))
  quiet .syncFile
  return entries

def publishBlob (model : Model) (identity : Json) (chunkBytes : Nat) (replace : Bool) :
    Action (List Dict) := do
  refuseExisting setting identity replace
  let entries ← writeFiles setting model identity chunkBytes
  replaceFile setting .temporaryBlob .blob
  return entries

structure Metrics where
  bytes : Int
  storages : Nat
deriving DecidableEq, Repr

def checkOptions (chunkBytes queueDepth : Int) : Action Unit := do
  require (0 < chunkBytes) (valueError "capture chunk size must be positive")
  require (1 ≤ queueDepth && queueDepth ≤ 64)
    (valueError "capture queue depth must be between 1 and 64")
  quiet .makeDirectory
  quiet .lock

def cleanUp : Action Unit := do
  discard .temporaryBlob
  discard .temporaryManifest
  quiet .unlock

def capture (model : Model) (identity : Json) (chunkBytes queueDepth : Int) (replace : Bool) :
    Action Metrics := do
  checkOptions chunkBytes queueDepth
  finallyDo (do
    let entries ← publishBlob setting model identity chunkBytes.toNat replace
    replaceFile setting .temporaryManifest .manifest
    quiet .syncDirectory
    let sizes ← lift (mapEach (fun entry : Dict => entry.int "nbytes") entries)
    return ⟨sizes.sum, entries.length⟩) cleanUp

end Capture

end Coldsnap.Artifact
