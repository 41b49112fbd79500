import Coldsnap.Snapshot.Codec

/-! # Artifacts

The committed artifact of `internal/snapshot/schema.go`, with the contracts of
`internal/snapshotdriver` and the runtime providers of `internal/snapshot/topology.go`, and what
`Artifact.Validate` accepts.
-/

namespace Coldsnap.Snapshot

open Go Marshal Coldsnap.Topology DoubleFormat Paths

structure Requirements where
  format : Int64
  features : List String
deriving DecidableEq

structure Contract where
  id : String
  abi : Int64
  captureBoundary : String
  minimumNVIDIADriverMajor : Int64
  baseRequirements : Requirements
deriving DecidableEq

structure Binding where
  id : String
  abi : Int64
deriving DecidableEq

def knownFeatures : List String :=
  ["criu-process-template", "criu-process-tree", "cuda-fresh-state", "cuda-initialized-state",
    "cuda-checkpoint-api", "cuda-checkpoint-roundtrip", "cuda-classic-ipc",
    "cuda-vmm-exact-address", "cuda-uvm-checkpoint", "cuda-vmm-exported-handle-checkpoint",
    "nccl-communicator-suspend-in-place", "nccl-transport-detach-in-place",
    "nccl-graph-resource-retention", "nccl-registration-window-in-place-replay",
    "nccl-nvls-in-place-replay", "nccl-device-api-state-retention"]

def n580Contract : Contract where
  id := "n580"
  abi := 1
  captureBoundary := "pre-cuda-process-template"
  minimumNVIDIADriverMajor := 580
  baseRequirements := ⟨1, ["criu-process-template", "cuda-fresh-state", "cuda-vmm-exact-address"]⟩

def n610Contract : Contract where
  id := "n610"
  abi := 1
  captureBoundary := "initialized-cuda-process-state"
  minimumNVIDIADriverMajor := 610
  baseRequirements := ⟨1, ["criu-process-tree", "cuda-checkpoint-api", "cuda-checkpoint-roundtrip",
    "cuda-classic-ipc", "cuda-initialized-state", "cuda-vmm-exact-address"]⟩

def lookupContract (id : String) : Result Contract :=
  if id = "n580" then .ok n580Contract
  else if id = "n610" then .ok n610Contract
  else .error s!"unsupported snapshot driver {quoted id}"

def validateFeature (previous feature : String) : Result String := do
  check (knownFeatures.contains feature && previous.toList < feature.toList)
    "snapshot feature requirements are unknown, duplicated, or unsorted"
  return feature

def Requirements.validate (requirements : Requirements) : Result Unit := do
  check (requirements.format = 1 && requirements.features ≠ [])
    "snapshot feature requirements are empty or use an unsupported format"
  let _ ← forEach validateFeature "" requirements.features

def Requirements.containsAll (requirements base : Requirements) : Bool :=
  base.features.all requirements.features.contains

def Contract.validate (contract : Contract) : Result Unit := do
  let expected ← lookupContract contract.id
  check (contract.abi = expected.abi && contract.captureBoundary = expected.captureBoundary &&
      contract.minimumNVIDIADriverMajor = expected.minimumNVIDIADriverMajor &&
      contract.baseRequirements.features = expected.baseRequirements.features)
    s!"snapshot driver {contract.id} contract differs from ABI {expected.abi.toInt}"
  within s!"snapshot driver {contract.id} requirements" contract.baseRequirements.validate

def Binding.matches (binding : Binding) (contract : Contract) : Bool :=
  binding.id = contract.id && binding.abi = contract.abi

structure DeviceCompatibility where
  slot : Int64
  gpuName : String
  computeCapability : String
deriving DecidableEq

structure UnitPlatformCompatibility where
  unit : String
  architecture : String
  kernel : String
  nvidiaDriverCaptured : String
  nvidiaDriverMin : String
  cudaUserspace : String
  devices : List DeviceCompatibility
deriving DecidableEq

structure ArtifactCompatibility where
  policy : String
  units : List UnitPlatformCompatibility
deriving DecidableEq

def numericVersion (text : String) : Bool :=
  (text.toList.splitOn '.').all fun part => part ≠ [] && part.all Char.isDigit

def UnitPlatformCompatibility.validate (platform : UnitPlatformCompatibility)
    (deviceCount : Nat) : Result Unit := do
  check (idPattern platform.unit && platform.architecture ≠ "" && platform.kernel ≠ "" &&
      platform.cudaUserspace ≠ "" && platform.devices.length = deviceCount &&
      numericVersion platform.nvidiaDriverCaptured && numericVersion platform.nvidiaDriverMin &&
      numericVersion platform.cudaUserspace)
    "portable platform identity fields are invalid"
  check (platform.devices.zipIdx.all fun entry => entry.1.slot.toInt = entry.2 &&
      entry.1.gpuName ≠ "" && numericVersion entry.1.computeCapability)
    "portable device identity fields are invalid"

def validatePlatform (launch : LaunchSpec) (seen : List String)
    (platform : UnitPlatformCompatibility) : Result (List String) :=
  match launch.units.find? (·.id = platform.unit) with
  | none => .error s!"unit {platform.unit} portable platform inventory is invalid or duplicated"
  | some unit => do
    check (platform.unit ∉ seen)
      s!"unit {platform.unit} portable platform inventory is invalid or duplicated"
    check (platform.validate unit.devices.length).toOption.isSome
      s!"unit {platform.unit} portable platform identity is invalid"
    return platform.unit :: seen

def ArtifactCompatibility.validate (compatibility : ArtifactCompatibility) (launch : LaunchSpec) :
    Result Unit := do
  check (compatibility.policy = "placement-independent-v1" &&
      compatibility.units.length = launch.units.length)
    "portable platform inventory is missing or incomplete"
  let _ ← forEach (validatePlatform launch) [] compatibility.units

structure Object where
  role : String
  owner : String
  path : String
  bytes : Int64
  sha256 : String
deriving DecidableEq

def unitOwner (id : String) : String := "unit/" ++ id
def workerOwner (id : String) : String := "worker/" ++ id
def serviceOwner (id : String) : String := "service/" ++ id
def groupOwner (id : String) : String := "group/" ++ id

def LaunchSpec.validOwners (launch : LaunchSpec) : List String :=
  launch.units.map (fun unit => unitOwner unit.id) ++
    launch.execution.workers.map (fun worker => workerOwner worker.id) ++
    launch.execution.services.map (fun service => serviceOwner service.id) ++
    launch.execution.groups.map fun group => groupOwner group.id

structure ObjectState where
  owners : List String
  paths : List (String × Object)

def validObjectPath (path : String) : Bool :=
  path ≠ "" && !isAbs path && clean path = path && path ≠ "." &&
    !startsWith path "../" && !containsNul path

/-- A path which was seen before is that of the same object, where paths may be shared. -/
def sharesPath (allowSharedPaths : Bool) (prior : Option Object) (object : Object) : Bool :=
  prior.all fun other => allowSharedPaths && other.role = object.role &&
    other.bytes = object.bytes && other.sha256 = object.sha256

def validateObject (launch : LaunchSpec) (required : Option (List String))
    (allowSharedPaths : Bool) (state : ObjectState) (object : Object) : Result ObjectState := do
  check (object.role ≠ "" && launch.validOwners.contains object.owner &&
      validObjectPath object.path && 0 < object.bytes.toInt && digestPattern object.sha256 &&
      sharesPath allowSharedPaths (state.paths.lookup object.path) object)
    "object record is invalid"
  check (!(required.any fun owners => owners.contains object.owner &&
      state.owners.contains object.owner))
    "provider contains duplicate worker objects"
  return ⟨object.owner :: state.owners, (object.path, object) :: state.paths⟩

section Objects

variable (objects : List Object) (launch : LaunchSpec)

def validateObjectsWithPathPolicy (required : Option (List String)) (allowSharedPaths : Bool) :
    Result Unit := do
  let final ← forEach (validateObject launch required allowSharedPaths) ⟨[], []⟩ objects
  ExecutionGraph.checkEach (required.getD []) fun owner =>
    check (final.owners.contains owner) s!"provider does not contain required owner {owner}"

def validateWorkerObjectsWithPathPolicy (label : String) (allowSharedPaths : Bool) :
    Result Unit := do
  check (objects.length = launch.execution.workers.length)
    s!"{label} must contain exactly one object per worker"
  validateObjectsWithPathPolicy objects launch
    (some (launch.execution.workers.map fun worker => workerOwner worker.id)) allowSharedPaths

def validateObjects (required : Option (List String)) : Result Unit :=
  validateObjectsWithPathPolicy objects launch required false

def validateWorkerObjects (label : String) : Result Unit :=
  validateWorkerObjectsWithPathPolicy objects launch label false

def validateSharedWorkerObjects (label : String) : Result Unit :=
  validateWorkerObjectsWithPathPolicy objects launch label true

end Objects

structure RuntimeProviderBinding where
  owner : String
  kind : String
  schema : String
  digest : String
  payload : Option Json

def RuntimeProviderBinding.validate [PayloadText] (binding : RuntimeProviderBinding) :
    Result Unit := do
  let payload := binding.payload.elim [] PayloadText.bytes
  check (startsWith binding.owner "unit/" && qualifiedName binding.kind &&
      qualifiedName binding.schema && digestPattern binding.digest && payload ≠ [])
    "runtime provider identity is incomplete"
  match PayloadFormat.isObject payload with
  | none => .error "runtime provider payload is invalid JSON"
  | some isObject => do
    check isObject "runtime provider payload must be an object"
    let digest ← within "canonicalize runtime provider" (PayloadFormat.canonicalSHA256 payload)
    check (binding.digest = "sha256:" ++ digest) "runtime provider payload digest mismatch"

def validateBinding [PayloadText] (launch : LaunchSpec) (seen : List (String × String))
    (binding : RuntimeProviderBinding) : Result (List (String × String)) := do
  check (launch.units.any fun unit => unitOwner unit.id = binding.owner)
    s!"runtime provider owner {quoted binding.owner} is not a launch unit"
  check (!seen.contains (binding.owner, binding.kind))
    s!"runtime provider {binding.kind} for {binding.owner} is duplicated"
  within s!"runtime provider {binding.kind} for {binding.owner}" binding.validate
  return (binding.owner, binding.kind) :: seen

structure UnitShapeCalibration [DoubleFormat] where
  unit : String
  engine : String
  plannedShapes : Int64
  warmedShapes : Int64
  seconds : Double
  evidence : Option Json

structure ShapeCalibrationCoverage [DoubleFormat] where
  policy : String
  units : List UnitShapeCalibration

structure CalibrationDetail where
  kind : String
  engine : String
  plannedShapes : Int64
  warmedShapes : Int64
  modes : List (StringMap (Option Json))
  toolchain : StringMap (Option Json)
  cacheRoot : String

def calibrationDetail : Codec CalibrationDetail := struct false ⟨"", "", 0, 0, [], .nil, ""⟩ [
  .always "kind" text (·.kind) ({ · with kind := · }),
  .always "engine" text (·.engine) ({ · with engine := · }),
  .always "planned_shapes" int64 (·.plannedShapes) ({ · with plannedShapes := · }),
  .always "warmed_shapes" int64 (·.warmedShapes) ({ · with warmedShapes := · }),
  .always "modes" (slice (mapOf raw)) (·.modes) ({ · with modes := · }),
  .always "toolchain" (mapOf raw) (·.toolchain) ({ · with toolchain := · }),
  .always "cache_root" text (·.cacheRoot) ({ · with cacheRoot := · })]

def CalibrationDetail.accepts (detail : CalibrationDetail) (engine : String) : Bool :=
  detail.kind = "coldsnap-shape-calibration" && detail.engine = engine &&
    0 < detail.plannedShapes.toInt && detail.warmedShapes = detail.plannedShapes &&
    !detail.modes.isEmpty && !detail.toolchain.entries.isEmpty && isAbs detail.cacheRoot

section Calibration

variable [DoubleFormat]

/-- The evidence of a unit: its own account, and the details below it. -/
structure CalibrationEvidence where
  format : Int64
  kind : String
  engine : String
  plannedShapes : Int64
  warmedShapes : Int64
  seconds : Double
  details : List (Option Json)

def calibrationEvidence : Codec CalibrationEvidence :=
  struct false ⟨0, "", "", 0, 0, zero, []⟩ [
    .always "format" int64 (·.format) ({ · with format := · }),
    .always "kind" text (·.kind) ({ · with kind := · }),
    .always "engine" text (·.engine) ({ · with engine := · }),
    .always "planned_shapes" int64 (·.plannedShapes) ({ · with plannedShapes := · }),
    .always "warmed_shapes" int64 (·.warmedShapes) ({ · with warmedShapes := · }),
    .always "seconds" float64 (·.seconds) ({ · with seconds := · }),
    .always "details" (slice raw) (·.details) ({ · with details := · })]

def CalibrationEvidence.accepts (evidence : CalibrationEvidence) (unit : UnitShapeCalibration) :
    Bool :=
  evidence.format = 1 && evidence.kind = "coldsnap-shape-calibration-coverage" &&
    evidence.engine = unit.engine && evidence.plannedShapes = unit.plannedShapes &&
    evidence.warmedShapes = unit.warmedShapes &&
    equal evidence.seconds unit.seconds && !evidence.details.isEmpty

def validateCalibration (launch : LaunchSpec) (seen : List String) (unit : UnitShapeCalibration) :
    Result (List String) := do
  check (launch.units.any (·.id = unit.unit) && unit.unit ∉ seen && unit.engine = launch.engine &&
      0 < unit.plannedShapes.toInt && unit.warmedShapes = unit.plannedShapes &&
      !isNegative unit.seconds && isFinite unit.seconds &&
      unit.evidence.isSome)
    s!"unit {unit.unit} shape-calibration coverage is invalid"
  match calibrationEvidence.decode calibrationEvidence.zero (unit.evidence.getD .null) with
  | .error _ => .error s!"unit {unit.unit} shape-calibration evidence is invalid"
  | .ok evidence => do
    check (evidence.accepts unit) s!"unit {unit.unit} shape-calibration evidence is invalid"
    check (evidence.details.all fun detail =>
        (calibrationDetail.decode calibrationDetail.zero (detail.getD .null)).toOption.any
          (·.accepts unit.engine))
      s!"unit {unit.unit} engine shape-calibration detail is invalid"
    return unit.unit :: seen

def ShapeCalibrationCoverage.validate (coverage : ShapeCalibrationCoverage)
    (launch : LaunchSpec) : Result Unit := do
  check (coverage.policy = "engine-owned-v1" && coverage.units.length = launch.units.length)
    "engine-owned shape-calibration coverage is incomplete"
  let _ ← forEach (validateCalibration launch) [] coverage.units

def UnitShapeCalibration.encode (unit : UnitShapeCalibration) : Json := .object [
  ("unit", text.encode unit.unit),
  ("engine", text.encode unit.engine),
  ("planned_shapes", int64.encode unit.plannedShapes),
  ("warmed_shapes", int64.encode unit.warmedShapes),
  ("seconds", float64.encode unit.seconds),
  ("evidence", raw.encode unit.evidence)]

def ShapeCalibrationCoverage.encode (coverage : ShapeCalibrationCoverage) : Json := .object [
  ("policy", text.encode coverage.policy),
  ("units", .array (coverage.units.map UnitShapeCalibration.encode))]

end Calibration

structure GraphResourceAudit where
  format : Int64
  unknownDependencies : Bool
  ncclCommunicators : Int64
  registeredWindows : Int64
  deviceAPI : Bool
  externalSemaphores : Int64
  providerOwnedAllocations : Int64
deriving DecidableEq

structure GraphRecipe where
  format : Int64
  kind : String
  engine : String
  mode : String
  shapeCalibrationPolicy : String
  calibrationUnits : Int64
  planSHA256 : String
deriving DecidableEq

structure GraphPolicyRecord where
  format : Int64
  requested : String
  effective : String
  decision : String
  audit : GraphResourceAudit
  recipe : GraphRecipe
deriving DecidableEq

def graphDisabled : String := "disabled"

def GraphResourceAudit.encode (audit : GraphResourceAudit) : Json := .object [
  ("format", int64.encode audit.format),
  ("unknown_dependencies", boolean.encode audit.unknownDependencies),
  ("nccl_communicators", int64.encode audit.ncclCommunicators),
  ("registered_windows", int64.encode audit.registeredWindows),
  ("device_api", boolean.encode audit.deviceAPI),
  ("external_semaphores", int64.encode audit.externalSemaphores),
  ("provider_owned_allocations", int64.encode audit.providerOwnedAllocations)]

def graphPlanSHA256 [DoubleFormat] [PayloadText] (record : GraphPolicyRecord)
    (launch : LaunchSpec) (calibration : Option ShapeCalibrationCoverage) : Result String := do
  let plan : Json := .object ([
    ("engine", text.encode record.recipe.engine),
    ("execution", executionGraph.encode launch.execution),
    ("requested", text.encode record.requested),
    ("effective", text.encode record.effective),
    ("audit", record.audit.encode)] ++
    calibration.toList.map fun coverage => ("shape_calibration", coverage.encode))
  let digest ← PayloadFormat.canonicalSHA256 (PayloadText.bytes plan)
  return "sha256:" ++ digest

namespace GraphPolicyRecord

def validateFields (record : GraphPolicyRecord) : Result Unit := do
  let policies := [graphPreserveExec, graphRecreateFromPlan, graphPreserveNCCLExec, graphDisabled]
  let decisions := ["requested_policy_is_supported", "provider_reconstructs_communicator",
    "graph_exec_preservation_is_unqualified", "qualified_exact_nccl_in_place"]
  check (record.format = 1 && policies.contains record.requested &&
      policies.contains record.effective && decisions.contains record.decision &&
      record.audit.format = 1 && 0 ≤ record.audit.ncclCommunicators.toInt &&
      0 ≤ record.audit.registeredWindows.toInt && 0 ≤ record.audit.externalSemaphores.toInt &&
      0 ≤ record.audit.providerOwnedAllocations.toInt)
    "CUDA graph policy record is invalid"
  check (!(record.requested ≠ graphDisabled && record.effective ≠ graphRecreateFromPlan &&
      record.effective ≠ graphPreserveNCCLExec))
    "graph executable preservation has no qualified engine/provider path"
  check (!(record.audit.unknownDependencies && record.effective ≠ graphRecreateFromPlan &&
      record.effective ≠ graphDisabled))
    "unknown CUDA graph dependencies require recreation"

/-- The decision which the requested policy and the audit lead to. -/
def expectedDecision (record : GraphPolicyRecord) : Result String :=
  let audit := record.audit
  if record.requested = graphDisabled then do
    check (record.effective = graphDisabled && !audit.unknownDependencies &&
        audit.ncclCommunicators = 0 && audit.registeredWindows = 0 && !audit.deviceAPI &&
        audit.externalSemaphores = 0 && audit.providerOwnedAllocations = 0)
      "disabled CUDA graphs have an inconsistent resource audit"
    return "requested_policy_is_supported"
  else if record.requested = graphRecreateFromPlan then do
    check (record.effective = graphRecreateFromPlan)
      "recreate-from-plan has an inconsistent effective policy"
    return "requested_policy_is_supported"
  else if record.requested = graphPreserveExec then
    return if 0 < audit.ncclCommunicators.toInt then "provider_reconstructs_communicator"
      else "graph_exec_preservation_is_unqualified"
  else if record.requested = graphPreserveNCCLExec then
    if audit.ncclCommunicators = 0 then do
      check (record.effective = graphRecreateFromPlan && audit.unknownDependencies)
        "NCCL-free graph preservation has an inconsistent audit"
      return "graph_exec_preservation_is_unqualified"
    else do
      check (record.effective = graphPreserveNCCLExec && !audit.unknownDependencies &&
          audit.ncclCommunicators = 1)
        "NCCL graph preservation has an inconsistent audit"
      return "qualified_exact_nccl_in_place"
  else return "requested_policy_is_supported"

def expectedMode (record : GraphPolicyRecord) : String :=
  if record.effective = graphDisabled then graphDisabled
  else if record.effective = graphPreserveNCCLExec then "engine-native-retained"
  else "engine-native-async"

def validate [DoubleFormat] [PayloadText] (record : GraphPolicyRecord) (launch : LaunchSpec)
    (calibration : Option ShapeCalibrationCoverage) : Result Unit := do
  record.validateFields
  let decision ← record.expectedDecision
  check (record.decision = decision) "CUDA graph policy decision differs from its resource audit"
  check (record.recipe.format = 1 && record.recipe.kind = "coldsnap-engine-graph-recipe" &&
      record.recipe.engine = launch.engine && record.recipe.mode ≠ "" &&
      ["auto", "enabled", "disabled"].contains record.recipe.shapeCalibrationPolicy &&
      0 ≤ record.recipe.calibrationUnits.toInt && digestPattern record.recipe.planSHA256)
    "CUDA graph recipe is invalid"
  check (record.recipe.mode = record.expectedMode)
    "CUDA graph recipe mode differs from graph policy"
  check (record.recipe.calibrationUnits.toInt =
      calibration.elim 0 fun coverage => coverage.units.length)
    "CUDA graph recipe calibration inventory differs from artifact evidence"
  let digest ← graphPlanSHA256 record launch calibration
  check (record.recipe.planSHA256 = digest)
    "CUDA graph recipe digest does not match its artifact inputs"

end GraphPolicyRecord

structure CapsuleImage where
  unit : String
  reference : String
  digest : String
  root : String
  driver : Binding
deriving DecidableEq

structure Capsule where
  images : List CapsuleImage
  objects : List Object
deriving DecidableEq

structure ModelPayloadProvider where
  repository : String
  revision : String
  objects : List Object
deriving DecidableEq

structure RecoveryProvider where
  source : String
  modelId : String
  revision : String
  driver : Binding
  loadPath : String
  replayPlan : List Object
deriving DecidableEq

structure WeightProviders where
  modelPayloads : Option ModelPayloadProvider
  /-- The driver of the native provider. -/
  native : Option Binding
  recovery : RecoveryProvider
deriving DecidableEq

structure ArtifactAcceptance where
  accepted : Bool
  expected : String
deriving DecidableEq

structure Artifact [DoubleFormat] where
  format : Int64
  kind : String
  state : String
  captureId : String
  requestSHA256 : String
  driver : Contract
  requires : Requirements
  launch : LaunchSpec
  compatibility : ArtifactCompatibility
  capsule : Capsule
  runtime : List RuntimeProviderBinding
  shapeCalibration : Option ShapeCalibrationCoverage
  graph : GraphPolicyRecord
  weights : WeightProviders
  acceptance : ArtifactAcceptance

def validateImage (driver : Contract) (seen : List String) (image : CapsuleImage) :
    Result (List String) := do
  check (idPattern image.unit && image.unit ∉ seen && digestPattern image.digest &&
      imageBindsDigest image.reference image.digest && isCleanAbsolute image.root &&
      !containsNul image.root && image.driver.matches driver)
    s!"artifact capsule image for unit {image.unit} is invalid"
  return image.unit :: seen

def Capsule.validate (capsule : Capsule) (driver : Contract) (launch : LaunchSpec) :
    Result Unit := do
  check (capsule.images.length = launch.units.length)
    "artifact capsule image count differs from launch-unit count"
  check (capsule.objects ≠ []) "artifact capsule contains no process or residual objects"
  let units ← forEach (validateImage driver) [] capsule.images
  ExecutionGraph.checkEach launch.units fun unit =>
    check (units.contains unit.id) s!"artifact capsule has no image for unit {unit.id}"
  within "artifact capsule" (validateObjects capsule.objects launch none)

def digestHex (digest : String) : String :=
  if startsWith digest "sha256:" then .ofList (digest.toList.drop 7) else digest

def payloadPath (object : Object) : String :=
  join ["model-payloads", "sha256", digestHex object.sha256 ++ ".pack"]

def ModelPayloadProvider.validate (provider : ModelPayloadProvider) (launch : LaunchSpec) :
    Result Unit := do
  check (!(provider.repository ≠ "" && provider.revision = ""))
    "model payload provider repository is not pinned"
  within "model payload provider"
    (validateSharedWorkerObjects provider.objects launch "model payload provider")
  check (provider.objects.all fun object =>
      object.role = "model-weight-payload" && object.path = payloadPath object)
    "model payload provider object is not content-addressed"

/-- The loader which replays the plan of a driver. -/
def expectedLoadPath (driver engine : String) : String :=
  if engine = "sglang" then
    if driver = "n610" then "sglang-inplace-disk" else "sglang-startup-disk"
  else "coldsnap-replay"

def RecoveryProvider.validate (recovery : RecoveryProvider) (driver : Contract)
    (launch : LaunchSpec) : Result Unit := do
  check (recovery.source = "huggingface-safetensors" && recovery.modelId = launch.model.id &&
      recovery.revision = launch.model.revision && recovery.driver.matches driver)
    "recovery provider does not match the captured model identity"
  if driver.id = "n610" || driver.id = "n580" then
    let loadPath := expectedLoadPath driver.id launch.engine
    check (recovery.loadPath = loadPath)
      s!"{driver.id} {launch.engine} recovery provider must use {loadPath}"
    within "recovery provider"
      (validateWorkerObjects recovery.replayPlan launch "recovery provider")

variable [DoubleFormat] [PayloadText]

def Artifact.validate (artifact : Artifact) : Result Unit := do
  check (artifact.format = 9 && artifact.kind = "coldsnap-snapshot-artifact" &&
      artifact.state = "committed")
    "artifact is not a committed ColdSnap v9 snapshot"
  check (idPattern artifact.captureId && digestPattern artifact.requestSHA256)
    "artifact identity is invalid"
  within "artifact snapshot driver" artifact.driver.validate
  within "artifact feature requirements" artifact.requires.validate
  check (artifact.requires.containsAll artifact.driver.baseRequirements)
    "artifact feature requirements omit snapshot driver base requirements"
  within "artifact launch" artifact.launch.validate
  within "artifact compatibility" (artifact.compatibility.validate artifact.launch)
  artifact.capsule.validate artifact.driver artifact.launch
  let _ ← within "artifact runtime" (forEach (validateBinding artifact.launch) [] artifact.runtime)
  within "artifact shape calibration"
    (artifact.shapeCalibration.elim (.ok ()) (·.validate artifact.launch))
  within "artifact CUDA graph policy"
    (artifact.graph.validate artifact.launch artifact.shapeCalibration)
  check (artifact.weights.native.all (·.matches artifact.driver))
    "native provider snapshot driver differs from artifact"
  check (!(artifact.weights.native.isSome && artifact.weights.modelPayloads.isNone))
    "native provider has no shared model payload provider"
  artifact.weights.modelPayloads.elim (.ok ()) (·.validate artifact.launch)
  artifact.weights.recovery.validate artifact.driver artifact.launch
  check (artifact.acceptance.accepted && artifact.acceptance.expected ≠ "")
    "artifact acceptance proof is missing"

end Coldsnap.Snapshot
