import Coldsnap.DiskBackend.Loading
import Coldsnap.DiskBackend.Partition

/-! # Writing snapshots

The padded writer shared by the residual file and the model pack, the recovery
manifest with its optional native export, and the plain blob.
-/

namespace Coldsnap.DiskBackend

open Python Crc32 Chunks Program Checked Hashing

variable (nature : Nature) (setting : Setting)

structure CaptureExtent where
  fileOffset : Int
  source : Int
  length : Int

def CaptureExtent.check (extent : CaptureExtent) : Checked Unit :=
  require (!(extent.fileOffset < 0 || extent.source ≤ 0 || extent.length ≤ 0))
    (valueError "capture extent offset, source, and length are invalid")

def checkCaptureOrder (padExtents : Bool) (previousEnd : Int) (extent : CaptureExtent) :
    Checked Int := do
  require (!(extent.fileOffset < previousEnd))
    (valueError "capture extents must be ordered and non-overlapping")
  require (!(padExtents && extent.fileOffset % 4096 != 0))
    (valueError "padded capture offsets must be 4096-byte aligned")
  let stop := extent.fileOffset + extent.length
  return if padExtents then alignUp stop else stop

def captureExtent (path : Path) (padExtents : Bool) (captured : List Digests × List UInt8)
    (extent : CaptureExtent) : Action (List Digests × List UInt8) :=
  act .capture fun world =>
    if world.device.accessible setting.pool extent.source extent.length then
      match world.files path with
      | none => (.error (missing path), world)
      | some file =>
        let bytes := Bytes.slice world.device.memory extent.source extent.length.toNat
        let filled := padBytes padExtents bytes
        (.ok (captured.1 ++ [⟨crc32 bytes 0, bytes, captured.2⟩], captured.2 ++ filled),
          world.setFile path (some (file.store extent.fileOffset filled.length
            (fun index => filled.getD index 0) world.tick)))
    else
      (.error cudaError, { world with
        device := world.device.hazard (.touchOfUnmapped extent.source extent.length) })

def capture (path : Path) (extents : List CaptureExtent) (verifyReadback padExtents : Bool) :
    Action ((List Digests × List UInt8) × Bool) := do
  ofExcept (foldEach (fun _ extent => extent.check) () extents)
  require (extents ≠ []) (valueError "capture requires at least one extent")
  let _ ← ofExcept (foldEach (checkCaptureOrder padExtents) 0 extents)
  let direct ← openForWriting nature path true
  let captured ← foldEach (captureExtent setting path padExtents) ([], []) extents
  fdatasync
  onlyIf verifyReadback (quiet .capture)
  return (captured, direct)

structure WrittenBlob where
  path : Path
  bytes : Int
  stat : Stat
  extents : List Extent
  preverified : Bool
  sha256 : String
  directIo : Bool
  captureBackend : String

def logicalBytes (extents : List Extent) : Int := (extents.map Extent.size).sum

def assignOffsets : Int → List Extent → List Extent
  | _, [] => []
  | offset, extent :: extents =>
    { extent with offset := offset } :: assignOffsets (offset + alignUp extent.size) extents

def recordDigest [Hashing] (fileSha256 : Bool) (extent : Extent) (digests : Digests) :
    Checked Extent := do
  require (!(fileSha256 && some (sha256 digests.extent) != extent.sha256))
    (runtimeError "model payload extent changed during canonical write")
  return { extent with crc32 := some (hex8 digests.crc) }

def writeExtent [Hashing] (path : Path) (stage : HostStage) (fileSha256 : Bool)
    (written : List Extent × List UInt8) (extent : Extent) :
    Action (List Extent × List UInt8) := do
  let digests ← captureRange nature setting path stage extent.ptr extent.size.toNat
    extent.offset true written.2
  let recorded ← ofExcept (recordDigest fileSha256 extent digests)
  return (written.1 ++ [recorded], digests.whole)

/-- The extents with their checksums, the bytes of the file, and how it was
opened. -/
structure Transferred where
  extents : List Extent
  whole : List UInt8
  direct : Bool
  backend : String

def captureExtents [Hashing] (temporary : Path) (extents : List Extent) (required : Int)
    (fileSha256 verify : Bool) : Action Transferred := do
  let captured ← capture nature setting temporary
    (extents.map fun extent => ⟨extent.offset, extent.ptr, extent.size⟩) verify true
  require
    (((captured.1.1.map fun digests => (digests.extent.length : Int)).sum = logicalBytes extents)
      && (captured.1.2.length : Int) = required)
    (runtimeError "native capture extent byte count changed during write")
  let recorded ← ofExcept (mapEach
    (fun pair : Extent × Digests => recordDigest fileSha256 pair.1 pair.2)
    (extents.zip captured.1.1))
  return ⟨recorded, captured.1.2, captured.2,
    if captured.2 then "native-direct" else "native-buffered"⟩

def stageExtents [Hashing] (temporary : Path) (extents : List Extent) (required : Int)
    (fileSha256 : Bool) : Action Transferred := do
  let stage ← hostStage setting
  let direct ← openForWriting nature temporary setting.writeDirect
  let written ← finallyDo (do
    preallocate temporary required
    let written ← foldEach (writeExtent nature setting temporary stage fileSha256) ([], []) extents
    fdatasync
    onlyIf (!direct) dropCache
    return written) closeFile
  return ⟨written.1, written.2, direct, if direct then "python-direct" else "python-buffered"⟩

def transferExtents [Hashing] (temporary : Path) (extents : List Extent) (required : Int)
    (fileSha256 verify : Bool) : Action Transferred :=
  if setting.captureTransport then
    captureExtents nature setting temporary extents required fileSha256 verify
  else stageExtents nature setting temporary extents required fileSha256

def Extent.stored (extent : Extent) : Stored :=
  ⟨extent.ptr, extent.size.toNat, extent.offset, extent.crc32.getD ""⟩

def writeExtentBlob [Hashing] (extents : List Extent) (path : Path)
    (fileSha256 verify : Bool) : Action WrittenBlob := do
  let required := packedExtentBytes extents
  require (0 < logicalBytes extents) (runtimeError "capture extent payload is empty")
  unlink path.temporary
  let placed := assignOffsets 0 extents
  let transferred ← discardingOnError path.temporary (do
    let transferred ← transferExtents nature setting path.temporary placed required
      fileSha256 verify
    replaceFile path.temporary path
    chmod path
    onlyIf (verify && !setting.captureTransport)
      (verifyBlob nature setting (transferred.extents.map Extent.stored)
        (logicalBytes extents) false path)
    return transferred)
  let stat ← statIdentity path
  return {
    path := path
    bytes := required
    stat := stat
    extents := transferred.extents
    preverified := verify
    sha256 := sha256 transferred.whole
    directIo := transferred.direct
    captureBackend := transferred.backend }

def fingerprintChunk (stage : HostStage) (pointer : Int) (digest : List UInt8)
    (piece : Nat × Nat) : Action (List UInt8) := do
  copyToHost setting stage (pointer + piece.1) piece.2
  let view ← stageBytes stage piece.2
  return digest ++ view

def fingerprint [Hashing] (stage : HostStage) (fingerprinted : List Extent) (extent : Extent) :
    Action (List Extent) := do
  let bytes ← foldEach (fingerprintChunk setting stage extent.ptr) []
    (chunks setting.chunkBytes extent.size.toNat)
  return fingerprinted ++ [{ extent with sha256 := some (sha256 bytes) }]

def canonicalOrder (extents : List Extent) : List Extent :=
  sortedOn (fun extent : Extent =>
    (toLex (extent.sha256.getD "", extent.size) : String ×ₗ Int)) extents

def validatePayload [Hashing] (path : Path) (expectedSha256 : String) (expectedBytes : Int) :
    Action Unit :=
  askFile path .validatePayload fun _ file =>
    require (file.size = expectedBytes && "sha256:" ++ sha256 file.contents = expectedSha256)
      (runtimeError "payload does not match its digest")

def newGeneration : Action String :=
  read fun world : World => s!"{setting.pid}-{world.tick}"

def identity : String :=
  "worker-id-" ++ setting.workerId ++ "-host-"
    ++ setting.host.map (fun character => if character = ':' then '_' else character)
    ++ s!"-rank-{setting.rank}-pid-{setting.pid}"

def ownerFields (generation : String) : Dict :=
  [("format", .int manifestFormat), ("kind", .str manifestKind),
    ("identity", .str (identity setting)), ("generation", .str generation),
    ("pid", .int setting.pid), ("host", .str setting.host), ("rank", .int setting.rank),
    ("worker_id", .str setting.workerId), ("capture_id", .str setting.captureId)]

def writeIoMode (direct : Bool) : String := if direct then "padded-direct" else "padded-buffered"

def payloadRecord (written : WrittenBlob) (manifestPath : Path) (stat : Stat) : Dict :=
  [("blob", .str written.path.name), ("manifest", .str manifestPath.name),
    ("bytes", .int written.bytes), ("sha256", .str ("sha256:" ++ written.sha256)),
    ("capture_backend", .str written.captureBackend), ("blob_stat", stat.toJson)]

def nativeManifestRecord (generation : String) (written residual : WrittenBlob) (stat : Stat)
    (residualExtents : List Extent) (allocationBytes : Int) (entries : List Json)
    (executionState : Json) : Dict :=
  ownerFields setting generation ++
  [("weight_source", .str weightSourceSplitNative),
    ("blob", .str written.path.name), ("blob_bytes", .int written.bytes),
    ("blob_stat", stat.toJson),
    ("model_blob", .str written.path.name), ("model_blob_bytes", .int written.bytes),
    ("model_blob_stat", stat.toJson),
    ("residual_blob", .str residual.path.name), ("residual_blob_bytes", .int residual.bytes),
    ("residual_blob_stat", residual.stat.toJson),
    ("residual_layout", .str residualLayoutShared),
    ("residual_capture_backend", .str residual.captureBackend),
    ("allocation_bytes", .int allocationBytes),
    ("model_weight_bytes", .int (logicalBytes written.extents)),
    ("residual_bytes", .int (logicalBytes residualExtents)),
    ("model_weight_extents", .arr (written.extents.map fun extent => .obj extent.toDict)),
    ("model_execution_state", executionState),
    ("residual_extents", .arr (residualExtents.map fun extent => .obj extent.toDict)),
    ("direct_io", .bool written.directIo),
    ("write_io_mode", .str (writeIoMode written.directIo)),
    ("blob_reused", .bool false), ("verify_mode", .str setting.verifyMode.text),
    ("checksum", .str "crc32"),
    ("preverified", .bool (setting.verifyMode = .preverified && residual.preverified)),
    ("portable_model_payload", .bool true), ("portable_residual_blob", .bool true),
    ("entries", .arr entries)]

def writeModelPack [Hashing] (extents : List Extent) (path : Path) :
    Action (WrittenBlob × Stat) := do
  let stage ← hostStage setting
  let fingerprinted ← foldEach (fingerprint setting stage) [] extents
  let canonical := canonicalOrder fingerprinted
  let written ← writeExtentBlob nature setting canonical path true false
  onlyIf (setting.verifyMode = .preverified)
    (validatePayload path ("sha256:" ++ written.sha256) written.bytes)
  let stat ← statIdentity path
  return (written, stat)

def writeModelPayload [Hashing] (extents : List Extent) (path manifestPath : Path)
    (allocationBytes : Int) (entries : List Json)
    (nativeResidual : Option (WrittenBlob × List Extent)) : Action Dict := do
  let pack ← writeModelPack nature setting extents path
  match nativeResidual with
  | none => return payloadRecord pack.1 manifestPath pack.2
  | some (residual, residualExtents) => do
    let present ← isFile residual.path
    require (residualExtents ≠ [] && present)
      (runtimeError "native residual payload record is invalid")
    require
      (logicalBytes pack.1.extents + logicalBytes residualExtents = allocationBytes)
      (runtimeError "native model and residual ranges do not cover allocations")
    let generation ← newGeneration setting
    let executionState ← backend (·.nativeModelExecutionState)
    atomicJson nature manifestPath (.obj (nativeManifestRecord setting generation pack.1
      residual pack.2 residualExtents allocationBytes entries executionState))
    return payloadRecord pack.1 manifestPath pack.2

def exportsModelPayload : Action Bool :=
  backend fun fields => setting.modelPayloadCaptureEnabled && !fields.modelPayloadExported

def nativeResidualName : String := "native-residual.blob"

def unlinkRecoveryFiles (exporting : Bool) : Action Unit := do
  let manifestPath ← backend (·.manifestPath)
  unlink manifestPath
  let blobPath ← backend (·.blobPath)
  unlink blobPath
  onlyIf exporting (do
    unlink (.snapshot modelPayloadName)
    unlink (.snapshot nativeResidualName)
    unlink (.snapshot nativeManifestName))
  unlink (.snapshot activationProviderName)
  syncDirectory

/-- The layout bound by the setters, or one derived from the bare ranges. -/
def Bindings.semanticLayout [Hashing] (bindings : Bindings) : Checked (List SemanticRange) := do
  require (bindings.modelWeightRanges ≠ [])
    (runtimeError "safetensors recovery has no captured model weight ranges")
  let layout := if bindings.modelWeightSemantics = [] then
      ordinalSemantics bindings.modelWeightRanges
    else bindings.modelWeightSemantics
  require
    (sameSet (layout.map fun item => (item.pointer, item.size)) bindings.modelWeightRanges)
    (runtimeError "safetensors recovery has no semantic model weight layout")
  return layout

def Bindings.nativeLayout (bindings : Bindings) (layout : List SemanticRange) :
    List SemanticRange :=
  if bindings.nativeModelPayloadSemantics = [] then layout
  else bindings.nativeModelPayloadSemantics

structure RecoveryPlan where
  allocations : List Allocation
  model : List Extent
  residual : List Extent
  nativeModel : List Extent
  pieces : List SharedPiece

def nativePartition (exporting : Bool) (allocations : List Allocation)
    (layout : List SemanticRange) (recovery : List Extent × List Extent) :
    Checked (List Extent × List Extent) :=
  if exporting then partitionSemanticWeightExtents allocations layout "native model payload"
  else .ok recovery

def planRecovery [Hashing] (bindings : Bindings) (exporting : Bool) : Checked RecoveryPlan := do
  let allocations := sortedOn Allocation.pointer setting.weights
  require (allocations ≠ [] && !allocations.any fun allocation => allocation.size ≤ 0)
    (runtimeError "safetensors recovery requires live weight allocations")
  let layout ← bindings.semanticLayout
  let recovery ← partitionSemanticWeightExtents allocations layout "safetensors recovery"
  let native ← nativePartition exporting allocations (bindings.nativeLayout layout) recovery
  let pieces ← sharedResidualExtents (recovery.2 :: if exporting then [native.2] else [])
  return ⟨allocations, recovery.1, recovery.2, native.1, pieces⟩

def poolBytes (allocations : List Allocation) : Int := (allocations.map Allocation.size).sum

def recoveryManifestRecord (generation : String) (plan : RecoveryPlan) (modelSource : Dict)
    (written : WrittenBlob) (residualExtents : List Extent) : Dict :=
  ownerFields setting generation ++
  [("weight_source", .str weightSourceSafetensors), ("model_source", .obj modelSource),
    ("blob", .str written.path.name), ("blob_bytes", .int written.bytes),
    ("blob_stat", written.stat.toJson), ("portable_residual_blob", .bool true),
    ("allocation_bytes", .int (poolBytes plan.allocations)),
    ("model_weight_bytes", .int (logicalBytes plan.model)),
    ("residual_bytes", .int (logicalBytes plan.residual)),
    ("model_weight_extents", .arr (plan.model.map fun extent => .obj extent.layoutDict)),
    ("residual_extents", .arr (residualExtents.map fun extent => .obj extent.toDict)),
    ("residual_layout", .str residualLayoutShared),
    ("direct_io", .bool written.directIo),
    ("write_io_mode", .str (writeIoMode written.directIo)),
    ("capture_backend", .str written.captureBackend),
    ("stored_residual_bytes", .int written.bytes),
    ("unique_residual_bytes", .int (logicalBytes written.extents)),
    ("blob_reused", .bool false),
    ("verify_mode", .str ("model-revision+residual-" ++ setting.verifyMode.text)),
    ("checksum", .str "crc32"), ("preverified", .bool written.preverified),
    ("entries", .arr (plan.allocations.map entryRecord))]

def writtenPieces (pieces : List SharedPiece) (written : List Extent) : List SharedPiece :=
  (pieces.zip written).map fun pair => ⟨pair.2, pair.1.present⟩

def exportModelPayload [Hashing] (plan : RecoveryPlan) (manifest : Dict) (manifestPath : Path)
    (written : WrittenBlob) (nativeResidual : List Extent) : Action Dict := do
  let payload ← writeModelPayload nature setting plan.nativeModel (.snapshot modelPayloadName)
    (.snapshot nativeManifestName) (poolBytes plan.allocations)
    (plan.allocations.map entryRecord) (some (written, nativeResidual))
  let manifest := (manifest.set "model_payload" (.obj payload)).set
    "model_payload_exported" (.bool true)
  atomicJson nature manifestPath (.obj manifest)
  onBackend fun fields => { fields with modelPayloadExported := true }
  return manifest

def writeRecoveryManifest [Hashing] : Action Dict := do
  let exporting ← exportsModelPayload setting
  unlinkRecoveryFiles exporting
  let bindings ← backend (·.bindings)
  let plan ← ofExcept (planRecovery setting bindings exporting)
  let stored := plan.pieces.map SharedPiece.extent
  ensureSpace nature setting (packedExtentBytes stored
    + if exporting then packedExtentBytes plan.nativeModel else 0)
  let blobPath ← backend (·.blobPath)
  let written ← writeExtentBlob nature setting stored blobPath false
    (setting.verifyMode = .preverified)
  let pieces := writtenPieces plan.pieces written.extents
  require
    (logicalBytes plan.model + logicalBytes plan.residual = poolBytes plan.allocations)
    (runtimeError "model-weight and residual ranges do not cover allocations")
  let generation ← newGeneration setting
  let modelSource ← ofExcept setting.modelSource
  let manifest := recoveryManifestRecord setting generation plan modelSource written
    (references pieces 0)
  let manifestPath ← backend (·.manifestPath)
  atomicJson nature manifestPath (.obj manifest)
  if exporting then
    exportModelPayload nature setting plan manifest manifestPath written (references pieces 1)
  else return manifest

end Coldsnap.DiskBackend
