import Coldsnap.DiskBackend.Machine
import Coldsnap.DiskBackend.Relocation

/-! # Validation of a loaded manifest

The checks of `_load_manifest` after the document has been read and relocated:
who captured it, which allocations it lists, and whether its extents tile them
and read ranges of their files which exist and do not overlap.
-/

namespace Coldsnap.DiskBackend

open Python Intervals Checked Dict

/-- The text before and after the last occurrence of a non-empty marker. -/
def rpartition (marker : List Char) : List Char → Option (List Char × List Char)
  | [] => none
  | character :: rest =>
    match rpartition marker rest with
    | some (before, after) => some (character :: before, after)
    | none =>
      if marker.isPrefixOf (character :: rest) then
        some ([], (character :: rest).drop marker.length)
      else none

def workerMarker (workerId : String) : List Char :=
  ("worker-id-" ++ workerId ++ "-host-").toList

def capturedNativeIdentityMatches [Builtins] (value : Json) (workerId : String)
    (rank pid : Int) : Checked Bool :=
  match value with
  | .str text =>
    if rank < 0 then .ok false
    else if !(workerMarker workerId).isPrefixOf text.toList then .ok false
    else
      match rpartition s!"-rank-{rank}-pid-".toList
          (text.toList.drop (workerMarker workerId).length) with
      | none => .ok false
      | some (host, identityPid) =>
        if host ≠ [] && Builtins.isDigit (String.ofList identityPid) then do
          let parsed ← (Json.str (String.ofList identityPid)).toInt
          return parsed == pid && 0 < pid
        else .ok false
  | _ => .ok false

def portableIdentityMatches (value : Json) (workerId : String) (rank pid : Int) : Bool :=
  match value with
  | .str text =>
    0 ≤ rank && (workerMarker workerId).isPrefixOf text.toList
      && s!"-rank-{rank}-pid-{pid}".toList.isSuffixOf text.toList
  | _ => false

def capturedOwnerMatches [Builtins] (manifest : Dict) (workerId : String) (rank : Int) :
    Checked Bool :=
  match manifest.get "rank", manifest.get "pid" with
  | .int capturedRank, .int capturedPid =>
    if (manifest.get "worker_id").equal (.str workerId) && capturedRank = rank
        && 0 < capturedPid then
      capturedNativeIdentityMatches (manifest.get "identity") workerId capturedRank capturedPid
    else .ok false
  | _, _ => .ok false

def activatedPortableNativeManifestMatches [Builtins] (manifest : Dict) (workerId : String)
    (expectedRank : Int) : Checked Bool :=
  if 0 ≤ expectedRank && (manifest.get "weight_source").equal (.str weightSourceSplitNative)
      && (manifest.get "portable_model_payload").isTrue then
    capturedOwnerMatches manifest workerId expectedRank
  else .ok false

def restoredProcessTemplateRecoveryManifestMatches [Builtins] (manifest : Dict)
    (workerId : String) (expectedRank : Int) (activationProvider : Option String) : Checked Bool :=
  if 0 ≤ expectedRank && (activationProvider = none || activationProvider = some "recovery")
      && (manifest.get "weight_source").equal (.str weightSourceSafetensors) then
    capturedOwnerMatches manifest workerId expectedRank
  else .ok false

def ownershipMismatches (setting : Setting) (manifest : Dict) (portableOwner : Bool)
    (expectedBlob : String) : List String :=
  (if !(manifest.get "pid").equal (.int setting.pid) && !portableOwner then ["pid"] else [])
  ++ (if !portableOwner && !portableIdentityMatches (manifest.get "identity")
        setting.workerId setting.rank setting.pid then ["identity"] else [])
  ++ (if !(manifest.get "rank").equal (.int setting.rank) then ["rank"] else [])
  ++ (if !(manifest.get "worker_id").equal (.str setting.workerId) then ["worker_id"] else [])
  ++ (if !(manifest.get "capture_id").equal (.str setting.captureId) then ["capture_id"] else [])
  ++ (if !(manifest.get "blob").equal (.str expectedBlob) then ["blob"] else [])

def hashable : Json → Bool
  | .arr _ => false
  | .obj _ => false
  | _ => true

def savedEntry [Builtins] (entry : Dict) : Checked (Int × Int × Json) := do
  let pointer ← entry.int "ptr"
  let size ← entry.int "size"
  let tag ← entry.item "tag"
  require (hashable tag) (typeError "unhashable type")
  return (pointer, size, tag)

def sameEntry (left right : Int × Int × Json) : Bool :=
  left.1 == right.1 && left.2.1 == right.2.1 && left.2.2.equal right.2.2

def distinctEntries : List (Int × Int × Json) → Bool
  | [] => true
  | entry :: entries => !entries.any (sameEntry entry) && distinctEntries entries

def matchesLive (saved : List (Int × Int × Json)) (allocations : List Allocation) : Bool :=
  saved.all (fun entry => allocations.any fun allocation =>
    sameEntry entry (allocation.pointer, allocation.size, .str allocation.tag))
  && allocations.all fun allocation => saved.any fun entry =>
    sameEntry entry (allocation.pointer, allocation.size, .str allocation.tag)

/-- A dictionary of ranges under their starts: a later range replaces an
earlier one with the same start. -/
def insertSpan (spans : List (Int × Int)) (span : Int × Int) : List (Int × Int) :=
  if spans.any fun other => other.1 = span.1 then
    spans.map fun other => if other.1 = span.1 then span else other
  else spans ++ [span]

def allocationRanges [Builtins] (entries : List Dict) : Checked (List (Int × Int)) := do
  let spans ← mapEach extentRange entries
  return spans.foldl insertSpan []

def isCrc (value : Json) : Bool :=
  match value with
  | .str text => text.length == 8
  | _ => false

def checkResidualExtent [Builtins] (shared : Bool) (fileBytes cursor : Int) (extent : Dict) :
    Checked Int := do
  let offset ← extent.int "offset"
  let size ← extent.int "size"
  let crc := extent.get "crc32"
  require
    (!(size ≤ 0 || offset < cursor || (shared && offset % 4096 != 0)
      || (!shared && offset != cursor) || !isCrc crc
      || !((crc.asString.map isHex).getD false)))
    (valueError "invalid residual extent")
  let next := offset + (if shared then alignUp size else size)
  require (!(fileBytes < next)) (valueError "residual extent exceeds file")
  return next

def validateResidualFileExtents [Builtins] (extents : List Dict) (fileBytes : Int)
    (layout : Json) : Checked Unit := do
  let shared := layout.equal (.str residualLayoutShared)
  require (layout.equal .null || shared) (valueError "unknown residual file layout")
  require (!(fileBytes ≤ 0 || (shared && fileBytes % 4096 != 0)))
    (valueError "invalid residual file size")
  let sorted ← sortedBy (fun extent : Dict => extent.int "offset") extents
  let cursor ← foldEach (checkResidualExtent shared fileBytes) 0 sorted
  require (!(!shared && cursor != fileBytes)) (valueError "residual extents do not cover file")

def checkModelExtent [Builtins] (expectedOffset : Int) (extent : Dict) : Checked Int := do
  let offset ← extent.int "offset"
  require (offset = expectedOffset) (valueError "")
  require (isCrc (extent.get "crc32")) (valueError "")
  require (match extent.get "sha256" with
    | .str text => text.length == 64
    | _ => false) (valueError "")
  let size ← extent.int "size"
  return expectedOffset + alignUp size

def checkModelFile [Builtins] (extents : List Dict) (fileBytes : Int) : Checked Unit := do
  let stop ← foldEach checkModelExtent 0 extents
  require (stop = fileBytes) (valueError "")

def checkCanonicalOrder [Builtins] (extents : List Dict) : Checked Unit := do
  let sorted ← sortedBy (fun item : Dict × Nat => do
    let digest ← item.1.item "sha256"
    let size ← item.1.int "size"
    return toLex (digest.toText, size)) extents.zipIdx
  require
    ((extents.zipIdx.zip sorted).all fun pair =>
      pair.1.2 == pair.2.2 || (Json.obj pair.1.1).equal (.obj pair.2.1))
    (valueError "")

def checkTiling [Builtins] (spans : List (Int × Int)) (extents : List Dict) :
    Checked (List Placement) :=
  mapEach (readPlacement spans) extents

def checkWhen (condition : Bool) (check : Checked Unit) : Checked Unit :=
  if condition then check else .ok ()

def checkBytes [Builtins] (manifest : Dict) (model residual : List Dict) (legacyBlob : Bool) :
    Checked Unit := do
  let modelBytes ← sumSizes model
  let residualBytes ← sumSizes residual
  let recordedModel ← manifest.int "model_weight_bytes"
  require (modelBytes = recordedModel) (valueError "")
  let recordedResidual ← manifest.int "residual_bytes"
  require (residualBytes = recordedResidual) (valueError "")
  checkWhen legacyBlob do
    let blobBytes ← manifest.int "blob_bytes"
    require (residualBytes = blobBytes) (valueError "")
  let allocationBytes ← manifest.int "allocation_bytes"
  require (modelBytes + residualBytes = allocationBytes) (valueError "")

/-- The entry checks shared by the split-native and the recovery format. -/
def checkEntries [Builtins] (error : PyError) (manifest : Dict) (liveBytes : Int)
    (anyLayout : Bool) (entries : List Dict) : Checked Unit := do
  let allocationBytes ← (manifest.getD "allocation_bytes" (.int (-1))).toInt
  require (anyLayout || allocationBytes = liveBytes) error
  let entryBytes ← sumSizes entries
  require (allocationBytes = entryBytes) error
  foldEach (fun _ entry => do
    let size ← int entry "size"
    require (!(size ≤ 0) && (get entry "tag").equal (.str preservedRegion)
      && sameSet (entry.map Prod.fst) ["ptr", "size", "tag"]) error) () entries

structure LoadContext where
  blobName : String
  residualName : String
  blobStat : Stat
  residualStat : Stat
  anyLayout : Bool

def splitNativeError : PyError := runtimeError "split native manifest is invalid"

def validateSplitNative [Builtins] (setting : Setting) (context : LoadContext)
    (manifest : Dict) (entries : List Dict) : Checked Unit := do
  require ((manifest.get "model_blob").equal (.str context.blobName)) splitNativeError
  require ((manifest.get "residual_blob").equal (.str context.residualName)) splitNativeError
  match extentList (manifest.get "model_weight_extents"),
      extentList (manifest.get "residual_extents") with
  | some model, some residual => do
    let modelBlobBytes ← (manifest.getD "model_blob_bytes" (.int (-1))).toInt
    require (context.blobStat.bytes = modelBlobBytes) splitNativeError
    let residualBlobBytes ← (manifest.getD "residual_blob_bytes" (.int (-1))).toInt
    require (context.residualStat.bytes = residualBlobBytes) splitNativeError
    require
      ((manifest.get "portable_model_payload").isTrue
        && (manifest.get "portable_residual_blob").isTrue
        && (manifest.get "blob_reused").isFalse
        && (manifest.get "checksum").equal (.str "crc32")
        && (manifest.get "verify_mode").equal (.str setting.verifyMode.text)
        && (if setting.verifyMode = .preverified then (manifest.get "preverified").isTrue
            else (manifest.get "preverified").isFalse))
      splitNativeError
    checkEntries splitNativeError manifest (setting.weights.map Allocation.size).sum
      context.anyLayout entries
    let spans ← allocationRanges entries
    rescue [.keyError, .typeError, .valueError]
      (runtimeError "split native manifest byte ranges are invalid") do
        let placements ← checkTiling spans (model ++ residual)
        let modelFileBytes ← manifest.int "model_blob_bytes"
        checkModelFile model modelFileBytes
        let residualFileBytes ← manifest.int "residual_blob_bytes"
        validateResidualFileExtents residual residualFileBytes (manifest.get "residual_layout")
        checkCanonicalOrder model
        require (allTiled spans placements) (valueError "")
        checkBytes manifest model residual false
  | _, _ => .error splitNativeError

def safetensorsError : PyError := runtimeError "safetensors recovery manifest is invalid"

/-- Which write modes go with which residual layout. -/
def recoveryIoMode (manifest : Dict) : Bool :=
  if (manifest.get "residual_layout").equal .null then
    (manifest.get "direct_io").isFalse
      && (manifest.get "write_io_mode").equal (.str "hybrid-residual-buffered")
  else
    (manifest.get "residual_layout").equal (.str residualLayoutShared)
      && (manifest.get "write_io_mode").equal
        (.str (if (manifest.get "direct_io").isTrue then "padded-direct" else "padded-buffered"))

def validateSafetensors [Builtins] (setting : Setting) (context : LoadContext)
    (manifest : Dict) (entries : List Dict) : Checked Unit :=
  match extentList (manifest.get "model_weight_extents"),
      extentList (manifest.get "residual_extents") with
  | some model, some residual => do
    let blobBytes ← (manifest.getD "blob_bytes" (.int (-1))).toInt
    require (0 < blobBytes && context.blobStat.bytes = blobBytes) safetensorsError
    checkWhen (!(manifest.get "portable_residual_blob").isTrue) do
      let recorded ← statMatches (manifest.getD "blob_stat" (.obj [])) context.blobStat
      require recorded safetensorsError
    require
      (recoveryIoMode manifest
        && (manifest.get "blob_reused").isFalse
        && (manifest.get "verify_mode").equal
          (.str ("model-revision+residual-" ++ setting.verifyMode.text))
        && (manifest.get "checksum").equal (.str "crc32")
        && (if setting.verifyMode = .preverified then (manifest.get "preverified").isTrue
            else (manifest.get "preverified").isFalse))
      safetensorsError
    let modelSource ← setting.modelSource
    require ((manifest.get "model_source").equal (.obj modelSource)) safetensorsError
    checkEntries safetensorsError manifest (setting.weights.map Allocation.size).sum
      context.anyLayout entries
    let spans ← allocationRanges entries
    rescue [.keyError, .typeError, .valueError]
      (runtimeError "safetensors recovery manifest byte ranges are invalid") do
        let placements ← checkTiling spans (model ++ residual)
        let fileBytes ← manifest.int "blob_bytes"
        validateResidualFileExtents residual fileBytes (manifest.get "residual_layout")
        require (allTiled spans placements) (valueError "")
        checkBytes manifest model residual ((manifest.get "residual_layout").equal .null)
  | _, _ => .error safetensorsError

def checkBlobEntry [Builtins] (expectedOffset : Int) (entry : Dict) : Checked Int := do
  let offset ← entry.int "offset"
  require (offset = expectedOffset) (runtimeError "snapshot allocation entries are not contiguous")
  let size ← entry.int "size"
  require (0 < size) (runtimeError "snapshot allocation entries are not contiguous")
  return expectedOffset + size

def validateBlob [Builtins] (setting : Setting) (context : LoadContext) (manifest : Dict)
    (entries : List Dict) : Checked Unit := do
  let blobBytes ← manifest.int "blob_bytes"
  require (context.blobStat.bytes = blobBytes)
    (runtimeError "snapshot blob size does not match its manifest")
  checkWhen (setting.verifyMode = .preverified) do
    let recorded ← statMatches (manifest.getD "blob_stat" (.obj [])) context.blobStat
    require recorded (runtimeError "preverified snapshot blob stat identity changed")
    require (manifest.get "preverified").isTrue
      (runtimeError "snapshot has no completed post-write verification")
  let stop ← foldEach checkBlobEntry 0 entries
  require (stop = blobBytes) (runtimeError "snapshot allocation entries do not cover the blob")

end Coldsnap.DiskBackend
