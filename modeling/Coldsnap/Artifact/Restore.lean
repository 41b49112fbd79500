import Coldsnap.Artifact.Capture

/-! # Restoring an artifact

`_resolve_storages`, `_hydrate_native_extents` and `restore` of
`SemanticTensorArtifact`. The saved storages are matched with those of a fresh
model through the names of the tensors alone.
-/

namespace Coldsnap.Artifact

open Python Crc32 Sha256 Chunks Program Checked

section Resolve

variable [Builtins]

def validateRef (saved : Dict) (name : String) (tensor : Tensor) (storagePointer : Int) :
    Checked Unit :=
  let current := tensorReference name tensor storagePointer
  let mismatches := identityMismatches (.obj saved) (.obj current.toDict) s!"tensor[{quoted name}]"
  Checked.require (mismatches = [])
    (artifactError ("tensor layout mismatch: " ++ "; ".intercalate mismatches))

def noGet : PyError := ⟨.attributeError, "object has no attribute 'get'"⟩

def missingTensor (name : Json) : PyError :=
  artifactError s!"fresh model is missing tensor {Builtins.render name}"

/-- A name as a dictionary key. The registered tensors have texts as names. -/
def nameOf : Json → Checked String
  | .str name => .ok name
  | .arr _ => .error (typeError "unhashable type: 'list'")
  | .obj _ => .error (typeError "unhashable type: 'dict'")
  | name => .error (missingTensor name)

variable (tensors : List (String × Tensor))

def tensorNamed (name : String) : Checked Tensor :=
  match tensors.find? fun item => item.1 = name with
  | some item => .ok item.2
  | none => .error (missingTensor (.str name))

def semanticRefs : Json → Checked (List Json)
  | .arr (first :: rest) => .ok (first :: rest)
  | .obj (_ :: _) => .error (keyError "0")
  | .str text => if text = "" then
      .error (artifactError "artifact storage has no semantic references")
    else .error noGet
  | .int value => if value = 0 then
      .error (artifactError "artifact storage has no semantic references")
    else .error (typeError "object is not subscriptable")
  | .bool true => .error (typeError "object is not subscriptable")
  | _ => .error (artifactError "artifact storage has no semantic references")

def resolveRef (key : Storage) (names : List String) (ref : Json) : Checked (List String) := do
  let fields ← ref.asDict.elim (.error noGet) .ok
  let name ← nameOf (fields.get "name")
  Checked.require (name ∉ names) (artifactError s!"artifact repeats tensor reference {quoted name}")
  let tensor ← tensorNamed tensors name
  Checked.require (tensor.storage = key)
    (artifactError s!"tensor alias layout changed for {quoted name}")
  validateRef fields name tensor key.pointer
  return names ++ [name]

structure Resolution where
  names : List String
  used : List Storage
  resolved : List (Tensor × Dict)

def resolveEntry (state : Resolution) (entry : Json) :
    Checked Resolution := do
  let fields ← entry.asDict.elim (.error noGet) .ok
  let refs ← semanticRefs (fields.get "refs")
  let first ← (refs.headD .null).asDict.elim (.error noGet) .ok
  let firstName ← nameOf (first.get "name")
  let tensor ← tensorNamed tensors firstName
  let key := tensor.storage
  Checked.require (key ∉ state.used)
    (artifactError s!"multiple artifact storages resolve to {quoted firstName}")
  let nbytes ← (fields.getD "nbytes" (.int (-1))).toInt
  Checked.require ((key.nbytes : Int) = nbytes)
    (artifactError (s!"storage size mismatch for {quoted firstName}: expected " ++
      Builtins.render (fields.get "nbytes") ++ s!", found {key.nbytes}"))
  let names ← foldEach (resolveRef tensors key) state.names refs
  return ⟨names, state.used ++ [key], state.resolved ++ [(tensor, fields)]⟩

def resolveStorages (model : Model) (entries : List Json) : Checked (List (Tensor × Dict)) := do
  let tensors ← registeredCudaTensors model
  let state ← foldEach (resolveEntry tensors) ⟨[], [], []⟩ entries
  let extra := sortedOn id ((tensors.map Prod.fst).filter fun name => name ∉ state.names)
  Checked.require (extra = []) (artifactError
    s!"fresh model has uncaptured CUDA tensors: {Builtins.render (.arr ((extra.take 8).map .str))}")
  return state.resolved

end Resolve

/-! ## Native hydration -/

/-- One range of the blob and its place in device memory. -/
structure HydrationExtent where
  fileOffset : Int
  destination : Int
  length : Int
  crc32 : Option String
  sha256 : Option String
deriving DecidableEq, Repr

def optionalText : Json → Checked (Option String)
  | .null => .ok none
  | .str text => .ok (some text)
  | _ => .error (typeError "object of this type has no len()")

def isHex (length : Nat) (text : String) : Bool :=
  text.length = length && text.toList.all fun digit => digit ∈ "0123456789abcdef".toList

def makeExtent (fileOffset destination length : Int) (crc sha : Option String) :
    Checked HydrationExtent := do
  Checked.require (0 ≤ fileOffset && 0 < destination && 0 < length)
    (valueError "hydration extent offset, destination, and length are invalid")
  Checked.require (crc.all (isHex 8))
    (valueError "hydration CRC32 must be eight lowercase hex digits")
  Checked.require (sha.isNone || crc.isSome) (valueError "hydration SHA-256 requires CRC32")
  Checked.require (sha.all (isHex 64))
    (valueError "hydration SHA-256 must be 64 lowercase hex digits")
  return ⟨fileOffset, destination, length, crc, sha⟩

def HydrationExtent.verifies (extent : HydrationExtent) (view : List UInt8) : Bool :=
  extent.crc32.all (· = hex8 (Crc32.crc32 view 0)) && extent.sha256.all (· = Sha256.sha256 view)

/-- The native pipeline: bytes are on the device before their digest is known. -/
def hydrateAll (file : File) (preverified : Bool) :
    List HydrationExtent → World → Checked Unit × World
  | [], world => (.ok (), world)
  | extent :: extents, world =>
    if (file.size : Int) < extent.fileOffset + extent.length then
      (.error (runtimeError "native hydration failed: short read"), world)
    else
      let view := Bytes.slice file.byte extent.fileOffset extent.length.toNat
      if preverified || extent.verifies view then
        hydrateAll file preverified extents (world.store extent.destination view)
      else (.error (runtimeError "native hydration failed: digest mismatch"),
        world.store extent.destination view)

section Restore

variable (setting : Setting)

variable (path : Path)

def hydrate (extents : List HydrationExtent) (backend : String)
    (chunkBytes queueDepth : Int) (preverified : Bool) : Action Int := do
  require (extents ≠ []) (valueError "hydration requires at least one extent")
  require (0 < chunkBytes && chunkBytes % 4096 = 0)
    (valueError "hydration chunk size must be 4096-byte aligned")
  require (1 ≤ queueDepth && queueDepth ≤ 64)
    (valueError "hydration queue depth must be between 1 and 64")
  require (backend ∈ ["buffered", "direct", "gds"])
    (valueError "hydration backend must be buffered, direct, or gds")
  require (backend ≠ "gds" || preverified) (runtimeError
    "GDS cannot validate device-direct bytes; use an immutable preverified artifact")
  act .hydrate fun world =>
    match world.files path with
    | none => (.error (runtimeError "native hydration failed: open"), world)
    | some file => hydrateAll file preverified extents world
  return (extents.map HydrationExtent.length).sum

def HydrationExtent.aligned (extent : HydrationExtent) : Bool :=
  extent.fileOffset % 4096 = 0 && extent.length % 4096 = 0

def extentGroups (backend : String) (extents : List HydrationExtent) :
    List (String × List HydrationExtent) :=
  if backend = "auto" ∨ backend = "direct" then
    let direct := backend = "direct" || setting.directAvailable
    let aligned := if direct then extents.filter HydrationExtent.aligned else []
    let residual := if direct then extents.filter fun extent => !extent.aligned else extents
    (if aligned = [] then [] else [("direct", aligned)]) ++
      (if residual = [] then [] else [("buffered", residual)])
  else [(backend, extents)]

def hydrateNativeExtents (extents : List HydrationExtent) (backend : String)
    (chunkBytes queueDepth : Int) (preverified : Bool) : Action Int :=
  foldEach (fun restored (group : String × List HydrationExtent) => do
    let bytes ← hydrate path group.2 group.1 chunkBytes queueDepth preverified
    return restored + bytes) 0 (extentGroups setting backend extents)

variable [Builtins]

def extentOf (blobOffset : Int) (row : Tensor × Dict) : Checked HydrationExtent := do
  let offset ← row.2.int "offset"
  let length ← row.2.int "nbytes"
  let crc ← optionalText (row.2.get "crc32")
  let sha ← optionalText (row.2.get "sha256")
  makeExtent (blobOffset + offset) row.1.storage.pointer length crc sha

/-! ## Restoring through the host -/

def restoreChunk (start : Int) (offset : Json) (preverified : Bool)
    (pointer : Int) (digest : BitVec 32 × List UInt8) (piece : Nat × Nat) :
    Action (BitVec 32 × List UInt8) := do
  let view ← readInto setting path (start + piece.1) piece.2
  require (view.length = piece.2) (artifactError
    s!"artifact blob ended while reading storage at offset {Builtins.render offset}")
  copyToDevice (pointer + piece.1) view
  return if preverified then digest else (crc32 view digest.1, digest.2 ++ view)

def restoreStorage (blobOffset : Int) (stageSize : Nat) (preverified : Bool)
    (restored : Int) (row : Tensor × Dict) : Action Int := do
  let remaining ← lift (row.2.int "nbytes")
  let offset ← lift (row.2.int "offset")
  require (0 ≤ blobOffset + offset) (osError "[Errno 22] Invalid argument")
  let digest ← foldEach (restoreChunk setting path (blobOffset + offset)
    (row.2.get "offset") preverified row.1.storage.pointer) (0, [])
    (chunks stageSize remaining.toNat)
  onlyIf (!preverified) (do
    require ((Json.str (hex8 digest.1)).equal (row.2.get "crc32"))
      (artifactError "artifact storage CRC32 mismatch")
    require ((Json.str (sha256 digest.2)).equal (row.2.get "sha256"))
      (artifactError "artifact storage SHA-256 mismatch"))
  return restored + remaining

def restorePython (blobOffset chunkBytes : Int) (preverified : Bool)
    (resolved : List (Tensor × Dict)) : Action Int := do
  let sizes ← lift (mapEach (fun row : Tensor × Dict => row.2.int "nbytes") resolved)
  let stageSize := min chunkBytes (sizes.foldl max 0)
  allocateStage
  openForReading setting path
  let restored ← foldEach
    (restoreStorage setting path blobOffset stageSize.toNat preverified) 0 resolved
  quiet .synchronize
  return restored

def restoreBlob (blobOffset chunkBytes queueDepth : Int) (preverified : Bool)
    (resolved : List (Tensor × Dict)) : Action Int :=
  match setting.hydrator with
  | some backend => do
    let extents ← lift (mapEach (extentOf blobOffset) resolved)
    hydrateNativeExtents setting path extents backend chunkBytes queueDepth preverified
  | none => restorePython setting path blobOffset chunkBytes preverified resolved

def verifyPreverified (manifest : Dict) : Action Unit :=
  catching [.osError, .fileNotFoundError, .runtimeError, .valueError, .jsonDecodeError]
    (ask .validate fun world =>
      setting.validation (manifest.getD "blob_sha256" (.str "")).toText (world.files .blob))
    fun error => raise (.raised (artifactError
      s!"preverified artifact admission failed: {error.message}"))

def restore (model : Model) (identity : Json) (chunkBytes queueDepth : Int)
    (preverified : Bool) (blobPath : Option Path) (blobOffset : Int) : Action Metrics := do
  require (0 < chunkBytes && chunkBytes % (alignment : Int) = 0)
    (valueError "restore chunk size must be positive and 4096-byte aligned")
  quiet .lock
  finallyDo (do
    let manifest ← loadManifest setting (some identity) blobPath blobOffset
    onlyIf (preverified && blobPath.isNone) (verifyPreverified setting manifest)
    let storages ← lift (manifest.item "storages")
    let entries ← lift (storages.asList.elim (.error (typeError "object is not iterable")) .ok)
    let resolved ← lift (resolveStorages model entries)
    let path := blobPath.getD .blob
    let restored ← restoreBlob setting path blobOffset chunkBytes queueDepth preverified resolved
    return ⟨restored, resolved.length⟩) (quiet .unlock)

end Restore

end Coldsnap.Artifact
