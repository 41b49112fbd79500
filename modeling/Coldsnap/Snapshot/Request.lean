import Coldsnap.Foundation.Marshal
import Coldsnap.Foundation.Paths
import Coldsnap.Topology.Graph

/-! # Requests

The request of `internal/snapshot/schema.go` and what its `Validate` accepts. The checks of the
launch are those of the execution graph.
-/

namespace Coldsnap.Snapshot

open Go Marshal Coldsnap.Topology DoubleFormat Paths

structure ModelSource where
  id : String
  revision : String
  source : String
deriving DecidableEq

structure Mount where
  source : String
  target : String
  readOnly : Bool
deriving DecidableEq

structure LaunchUnit where
  id : String
  index : Int64
  host : String
  devices : List String
  image : String
  imageDigest : String
  command : List String
  environment : StringMap String
  mounts : List Mount

structure Worker where
  id : String
  unit : String
  service : String
  processSlot : Int64
  deviceSlots : List Int64
deriving DecidableEq

structure AdapterTopology where
  schema : String
  digest : String
  payload : Option Json

structure ExecutionGraph where
  workers : List Worker
  groups : List ProcessGroup
  services : List ServiceDomain
  adapter : AdapterTopology

structure LaunchSpec where
  engine : String
  model : ModelSource
  units : List LaunchUnit
  execution : ExecutionGraph

/-- The bytes of a value in a document. -/
class PayloadText extends PayloadFormat where
  bytes : Json → List UInt8

def LaunchUnit.topology (unit : LaunchUnit) : Topology.LaunchUnit where
  id := unit.id
  index := unit.index.toInt
  host := unit.host
  environment := unit.environment.entries
  command := unit.command
  devices := unit.devices
  image := unit.image
  imageDigest := unit.imageDigest
  mounts := unit.mounts.map fun mount => ⟨mount.source, mount.target⟩

def Worker.topology (worker : Worker) : Topology.Worker where
  id := worker.id
  unit := worker.unit
  service := worker.service
  processSlot := worker.processSlot.toInt
  deviceSlots := worker.deviceSlots.map Int64.toInt

def LaunchSpec.topology [PayloadText] (launch : LaunchSpec) : Topology.LaunchSpec where
  engine := launch.engine
  modelId := launch.model.id
  modelRevision := launch.model.revision
  units := launch.units.map LaunchUnit.topology
  execution := {
    workers := launch.execution.workers.map Worker.topology
    groups := launch.execution.groups
    services := launch.execution.services
    adapter := {
      schema := launch.execution.adapter.schema
      digest := launch.execution.adapter.digest
      payload := launch.execution.adapter.payload.elim [] PayloadText.bytes } }

def LaunchSpec.validate [PayloadText] (launch : LaunchSpec) : Result Unit :=
  launch.topology.validate

structure ProcessPolicy where
  backend : String
  kvDiscard : Bool
  asyncGraphs : Bool
  graphPolicy : String
  shapeCalibration : String
  artifactScope : String
deriving DecidableEq

structure PreparedPayloadValidation [DoubleFormat] where
  record : String
  provider : String
  contentEvidence : String
  reason : String
  device : UInt64
  inode : UInt64
  size : Int64
  mTimeNS : Int64
  cTimeNS : Int64
  uid : UInt32
  gid : UInt32
  mode : UInt32
  bytesHashed : Int64
  seconds : Double

structure PreparedPayload [DoubleFormat] where
  worker : String
  path : String
  bytes : Int64
  sha256 : String
  validation : Option PreparedPayloadValidation

structure NativePolicy [DoubleFormat] where
  repository : String
  revision : String
  filesByWorker : StringMap String
  staged : List PreparedPayload
  materialize : String

structure RecoveryPolicy where
  enabled : Bool
  source : String
  loaderBackend : String
deriving DecidableEq

structure WeightPolicy [DoubleFormat] where
  mode : String
  native : NativePolicy
  recovery : RecoveryPolicy

structure PreparedCache where
  unit : String
  path : String
deriving DecidableEq

structure CachePolicy where
  seed : Bool
  paths : List String
  staged : List PreparedCache
deriving DecidableEq

structure CapsulePolicy where
  repository : String
deriving DecidableEq

structure CompatibilityPolicy where
  enforceCapturedDriverFloor : Bool
  kernel : String
deriving DecidableEq

structure SnapshotPolicy [DoubleFormat] where
  process : ProcessPolicy
  weights : WeightPolicy
  cache : CachePolicy
  capsule : CapsulePolicy
  compatibility : CompatibilityPolicy

def startsWith (text start : String) : Bool := start.toList.isPrefixOf text.toList

def containsText (text part : String) : Bool :=
  text.toList.tails.any fun rest => part.toList.isPrefixOf rest

def containsNul (text : String) : Bool := text.toList.contains nul

def pathsOverlap (first second : String) : Bool :=
  first = second || startsWith first (second ++ "/") || startsWith second (first ++ "/")

def cacheRoots : List String :=
  ["/root/.cache/flashinfer", "/root/.cache/torch", "/root/.cache/torch_extensions",
    "/root/.cache/vllm", "/root/.triton/cache", "/tmp/coldsnap-derived-cache",
    "/tmp/torchinductor_root", "/var/cache/coldsnap"]

def safeCachePath (value : String) : Bool :=
  isCleanAbsolute value && !containsNul value &&
    cacheRoots.any fun root => value = root || startsWith value (root ++ "/")

def hasTag (value : String) : Bool :=
  (value.toList.reverse.takeWhile (· ≠ '/')).contains ':'

def validCapsuleRepository (value : String) : Bool :=
  value ≠ "" && value.toList.all (fun character => !character.isUpper) &&
    !value.toList.any (fun character => "@ \t\r\n".toList.contains character || character = nul) &&
    !startsWith value "/" && value.toList.getLast? ≠ some '/' && !containsText value "//" &&
    !hasTag value &&
    value.toList.all fun character =>
      character.isLower || character.isDigit || "._:/-".toList.contains character

def graphPreserveExec : String := "preserve-exec"
def graphRecreateFromPlan : String := "recreate-from-plan"
def graphPreserveNCCLExec : String := "preserve-nccl-exec"

def ProcessPolicy.validate (policy : ProcessPolicy) : Result Unit := do
  check (policy.backend = "cuda-criu")
    s!"unsupported process snapshot backend {quoted policy.backend}"
  let artifactScope := if policy.artifactScope = "" then "portable" else policy.artifactScope
  check (["portable", "target-local"].contains artifactScope)
    s!"unsupported process artifact scope {quoted policy.artifactScope}"
  let shapeCalibration := if policy.shapeCalibration = "" then "auto" else policy.shapeCalibration
  check (["auto", "enabled", "disabled"].contains shapeCalibration)
    s!"unsupported shape calibration policy {quoted policy.shapeCalibration}"
  check (!(shapeCalibration = "enabled" && !policy.asyncGraphs))
    "shape calibration requires asynchronous CUDA graphs"
  let graphPolicy :=
    if policy.graphPolicy = "" && policy.asyncGraphs then graphRecreateFromPlan
    else policy.graphPolicy
  if policy.asyncGraphs then
    check ([graphPreserveExec, graphRecreateFromPlan, graphPreserveNCCLExec].contains graphPolicy)
      s!"unsupported CUDA graph preservation policy {quoted policy.graphPolicy}"
  else
    check (graphPolicy = "") "CUDA graph preservation policy requires asynchronous CUDA graphs"

def validateCachePath (seen : List String) (cachePath : String) : Result (List String) := do
  check (safeCachePath cachePath && cachePath ∉ seen) "derived cache path inventory is invalid"
  check (seen.all fun existing =>
      !(startsWith cachePath (existing ++ "/") || startsWith existing (cachePath ++ "/")))
    "derived cache paths must not overlap"
  return cachePath :: seen

def validateStagedCache (seen : List String) (staged : PreparedCache) : Result (List String) := do
  check (idPattern staged.unit && staged.unit ∉ seen && isCleanAbsolute staged.path &&
      !containsNul staged.path)
    "staged derived cache inventory is invalid"
  return staged.unit :: seen

def CachePolicy.validate (policy : CachePolicy) : Result Unit := do
  check (!(!policy.seed && policy.paths ≠ [])) "derived cache paths require cache seeding"
  check (!(!policy.seed && policy.staged ≠ [])) "staged derived caches require cache seeding"
  let _ ← forEach validateCachePath [] policy.paths
  let _ ← forEach validateStagedCache [] policy.staged

def validFileName (entry : String × String) : Bool :=
  idPattern entry.1 && entry.2 ≠ "" && !isAbs entry.2 && clean entry.2 = entry.2 &&
    !startsWith entry.2 "../"

structure Selection where
  id : String
deriving DecidableEq

structure ValidationPolicy where
  healthPath : String
  prompt : String
  expected : String
deriving DecidableEq

structure WorkloadIdentity where
  clusterId : String
  intentId : String
  recipe : String
  runtime : String
  model : String
  servedModelName : String
  logPath : String
deriving DecidableEq

structure LifecyclePolicy where
  activationState : String
deriving DecidableEq

def Selection.validate (selection : Selection) : Result Unit := do
  check (selection.id ≠ "") "snapshot driver is required"
  check (selection.id = "n580" || selection.id = "n610")
    s!"unsupported snapshot driver {quoted selection.id}"

def operations : List String :=
  ["capture", "publish", "publish-native", "restore", "sleep", "wake", "status"]

def WorkloadIdentity.none : WorkloadIdentity := ⟨"", "", "", "", "", "", ""⟩

def WorkloadIdentity.validate (workload : WorkloadIdentity) : Result Unit :=
  if workload.clusterId = "" then
    check (workload = .none) "workload identity requires cluster_id when any field is set"
  else do
    check (idPattern workload.clusterId && workload.intentId ≠ "" && workload.recipe ≠ "" &&
        workload.runtime ≠ "" && workload.model ≠ "")
      "workload identity requires valid cluster_id, intent_id, recipe, runtime, and model"
    check ([workload.intentId, workload.recipe, workload.runtime, workload.model,
        workload.servedModelName, workload.logPath].all fun value =>
          !value.toList.any fun character =>
            character = nul || character = '\r' || character = '\n')
      "workload identity contains an invalid value"
    check (workload.logPath = "" || (isCleanAbsolute workload.logPath &&
        workload.logPath ≠ "/"))
      "workload log_path must be a clean absolute file path"

def canonicalRuntimeCachePath : String := "/var/cache/coldsnap/runtime"

variable [DoubleFormat]

def PreparedPayloadValidation.accepts (validation : PreparedPayloadValidation)
    (pack : PreparedPayload) : Bool :=
  validation.record = pack.path ++ ".coldsnap-validation.json" &&
    validation.provider = "sha256-cache-v1" && validation.contentEvidence ≠ "" &&
    validation.device ≠ 0 && validation.inode ≠ 0 && validation.size = pack.bytes &&
    0 < validation.mTimeNS.toInt && 0 ≤ validation.bytesHashed.toInt &&
    !isNegative validation.seconds

def validateStagedPayload (seen : List String) (pack : PreparedPayload) :
    Result (List String) := do
  check (idPattern pack.worker && pack.worker ∉ seen && isAbs pack.path &&
      0 < pack.bytes.toInt && digestPattern pack.sha256)
    "staged model payload inventory is invalid"
  check (pack.validation.all fun validation => validation.accepts pack)
    "staged model payload validation evidence is invalid"
  return pack.worker :: seen

def WeightPolicy.validate (policy : WeightPolicy) : Result Unit := do
  check (["auto", "native", "recovery", "cache-only-auto"].contains policy.mode)
    s!"unsupported weight mode {quoted policy.mode}"
  check (!(policy.native.repository ≠ "" && policy.native.revision = ""))
    "model payload repository must be pinned to a revision"
  check (["", "off", "async", "required"].contains policy.native.materialize)
    s!"unsupported native model payload materialization mode {quoted policy.native.materialize}"
  check (!(policy.native.filesByWorker.entries ≠ [] && policy.native.repository = ""))
    "model payload filenames require a repository"
  check (policy.native.filesByWorker.entries.all validFileName)
    "model payload filename inventory is invalid"
  let _ ← forEach validateStagedPayload [] policy.native.staged
  check (!(policy.recovery.enabled && policy.recovery.source ≠ "huggingface-safetensors"))
    s!"unsupported recovery source {quoted policy.recovery.source}"
  check (["direct", "buffered", "auto", "mmap", "torch"].contains policy.recovery.loaderBackend)
    s!"unsupported recovery loader backend {quoted policy.recovery.loaderBackend}"
  check (!(["recovery", "auto", "cache-only-auto"].contains policy.mode &&
      !policy.recovery.enabled))
    s!"weight mode {quoted policy.mode} requires recovery fallback"

def SnapshotPolicy.validate (policy : SnapshotPolicy) : Result Unit := do
  policy.process.validate
  policy.weights.validate
  policy.cache.validate
  check (policy.capsule.repository = "" || validCapsuleRepository policy.capsule.repository)
    "capsule repository is invalid"
  check (["capability", "exact"].contains policy.compatibility.kernel)
    s!"unsupported kernel compatibility policy {quoted policy.compatibility.kernel}"

structure Request where
  format : Int64
  kind : String
  operation : String
  id : String
  driver : Selection
  artifact : String
  output : String
  launch : LaunchSpec
  policy : SnapshotPolicy
  validation : ValidationPolicy
  workload : WorkloadIdentity
  lifecycle : LifecyclePolicy

namespace Request

variable (request : Request)

/-- The state of the request's lifecycle; the empty one is the normal state. -/
def activationState : String :=
  if request.lifecycle.activationState = "" then "running" else request.lifecycle.activationState

def validateOperation : Result Unit := do
  check (request.format.toInt = 4 && request.kind = "coldsnap-operation-request")
    s!"unsupported ColdSnap request format {request.format.toInt} kind {quoted request.kind}"
  check (operations.contains request.operation)
    s!"unsupported ColdSnap operation {quoted request.operation}"
  check (idPattern request.id) "ColdSnap request ID is invalid"
  within "ColdSnap request" request.driver.validate
  check (!(request.operation = "capture" && request.output = "")) "capture request requires output"
  check (!(["restore", "sleep", "wake", "status"].contains request.operation &&
      request.artifact = ""))
    s!"{request.operation} request requires artifact"
  check (!((request.operation = "publish" || request.operation = "publish-native") &&
      (request.artifact = "" || request.output = "")))
    s!"{request.operation} request requires artifact and output"

def validateLifecycle : Result Unit := do
  check (request.activationState = "running" || request.activationState = "warm")
    "lifecycle activation_state must be running or warm"
  check (!(request.operation ≠ "restore" && request.activationState ≠ "running"))
    "warm activation_state is valid only for restore"
  if request.activationState = "warm" then
    check (request.driver.id = "n610") "warm activation currently requires snapshot driver n610"
    check (request.policy.weights.native.materialize ≠ "required")
      "warm activation cannot require native materialization before hydration"
  check (!(["sleep", "wake", "status"].contains request.operation &&
      request.workload.clusterId = ""))
    s!"{request.operation} request requires workload.cluster_id"

def validateCommands : Result Unit :=
  if request.policy.process.asyncGraphs then
    ExecutionGraph.checkEach request.launch.units fun unit =>
      check (unit.command.all fun argument => !containsText argument "--enforce-eager")
        s!"launch unit {unit.id} enables --enforce-eager while asynchronous CUDA graphs are enabled"
  else .ok ()

def validateCaches : Result Unit := do
  let cache := request.policy.cache
  check (!(request.operation ≠ "capture" && cache.staged ≠ []))
    "staged derived caches are valid only for capture"
  if cache.staged ≠ [] then
    check (cache.staged.length = request.launch.units.length)
      "staged derived cache inventory must cover every launch unit"
    check (cache.paths.any fun path =>
        path = canonicalRuntimeCachePath || startsWith canonicalRuntimeCachePath (path ++ "/"))
      "staged derived caches require the canonical runtime cache path"
    check (cache.staged.all fun staged => request.launch.units.any (·.id = staged.unit))
      "staged derived cache unit is outside launch topology"
  ExecutionGraph.checkEach request.launch.units fun unit =>
    ExecutionGraph.checkEach unit.mounts fun mount =>
      check (cache.paths.all fun path => !pathsOverlap mount.target path)
        s!"unit {unit.id} derived cache path overlaps launch mount {mount.target}"

def validatePayloads : Result Unit := do
  let native := request.policy.weights.native
  let workers := request.launch.execution.workers
  check (native.filesByWorker.entries.all fun entry => workers.any (·.id = entry.1))
    "model payload filename worker is outside launch topology"
  check (native.filesByWorker.entries = [] ||
      native.filesByWorker.entries.length = workers.length)
    "model payload filenames must cover every launch worker"
  check (native.staged.all fun pack => workers.any (·.id = pack.worker))
    "staged model payload worker is outside launch topology"
  check (native.staged.isEmpty || native.staged.length = workers.length)
    "staged model payloads must cover every launch worker"

def validate [PayloadText] (request : Request) : Result Unit := do
  request.validateOperation
  request.validateLifecycle
  request.launch.validate
  request.policy.validate
  request.validateCommands
  check (!(request.operation = "publish" && request.policy.capsule.repository = ""))
    "publish request requires a capsule repository"
  check (!(request.operation = "publish-native" &&
      request.policy.weights.native.repository = ""))
    "publish-native request requires a model payload repository"
  request.validateCaches
  request.validatePayloads
  check (request.validation.healthPath ≠ "" && startsWith request.validation.healthPath "/" &&
      request.validation.prompt ≠ "" && request.validation.expected ≠ "")
    "validation policy requires an absolute health path, prompt, and expected text"
  request.workload.validate

end Request

end Coldsnap.Snapshot
