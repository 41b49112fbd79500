import Coldsnap.Snapshot.Request

/-! # Requests as documents

`DecodeRequest`, `Encode` and `RequestSHA256` of `internal/snapshot/schema.go`. A document is
decoded over the defaults of the snapshot driver which it names.
-/

namespace Coldsnap.Snapshot

open Go Marshal Coldsnap.Topology

def modelSource : Codec ModelSource := struct true ⟨"", "", ""⟩ [
  .always "id" text (·.id) ({ · with id := · }),
  .always "revision" text (·.revision) ({ · with revision := · }),
  .omitempty "source" text (·.source) ({ · with source := · })]

def mount : Codec Mount := struct true ⟨"", "", false⟩ [
  .always "source" text (·.source) ({ · with source := · }),
  .always "target" text (·.target) ({ · with target := · }),
  .omitempty "read_only" boolean (·.readOnly) ({ · with readOnly := · })]

def launchUnit : Codec LaunchUnit := struct true ⟨"", 0, "", [], "", "", [], .nil, []⟩ [
  .always "id" text (·.id) ({ · with id := · }),
  .always "index" int64 (·.index) ({ · with index := · }),
  .always "host" text (·.host) ({ · with host := · }),
  .always "devices" (slice text) (·.devices) ({ · with devices := · }),
  .always "image" text (·.image) ({ · with image := · }),
  .always "image_digest" text (·.imageDigest) ({ · with imageDigest := · }),
  .always "command" (slice text) (·.command) ({ · with command := · }),
  .omitempty "environment" (mapOf text) (·.environment) ({ · with environment := · }),
  .omitempty "mounts" (slice mount) (·.mounts) ({ · with mounts := · })]

def worker : Codec Worker := struct true ⟨"", "", "", 0, []⟩ [
  .always "id" text (·.id) ({ · with id := · }),
  .always "unit" text (·.unit) ({ · with unit := · }),
  .always "service" text (·.service) ({ · with service := · }),
  .always "process_slot" int64 (·.processSlot) ({ · with processSlot := · }),
  .always "device_slots" (slice int64) (·.deviceSlots) ({ · with deviceSlots := · })]

def processGroup : Codec ProcessGroup := struct true ⟨"", "", "", []⟩ [
  .always "id" text (·.id) ({ · with id := · }),
  .always "kind" text (·.kind) ({ · with kind := · }),
  .always "service" text (·.service) ({ · with service := · }),
  .always "members" (slice text) (·.members) ({ · with members := · })]

def serviceDomain : Codec ServiceDomain := struct true ⟨"", "", []⟩ [
  .always "id" text (·.id) ({ · with id := · }),
  .always "role" text (·.role) ({ · with role := · }),
  .always "workers" (slice text) (·.workers) ({ · with workers := · })]

def adapterTopology : Codec AdapterTopology := struct true ⟨"", "", none⟩ [
  .always "schema" text (·.schema) ({ · with schema := · }),
  .always "digest" text (·.digest) ({ · with digest := · }),
  .always "payload" raw (·.payload) ({ · with payload := · })]

def executionGraph : Codec ExecutionGraph := struct true ⟨[], [], [], adapterTopology.zero⟩ [
  .always "workers" (slice worker) (·.workers) ({ · with workers := · }),
  .always "groups" (slice processGroup) (·.groups) ({ · with groups := · }),
  .always "services" (slice serviceDomain) (·.services) ({ · with services := · }),
  .always "adapter" adapterTopology (·.adapter) ({ · with adapter := · })]

def launchSpec : Codec LaunchSpec := struct true ⟨"", modelSource.zero, [], executionGraph.zero⟩ [
  .always "engine" text (·.engine) ({ · with engine := · }),
  .always "model" modelSource (·.model) ({ · with model := · }),
  .always "units" (slice launchUnit) (·.units) ({ · with units := · }),
  .always "execution" executionGraph (·.execution) ({ · with execution := · })]

def processPolicy : Codec ProcessPolicy := struct true ⟨"", false, false, "", "", ""⟩ [
  .always "backend" text (·.backend) ({ · with backend := · }),
  .always "kv_discard" boolean (·.kvDiscard) ({ · with kvDiscard := · }),
  .always "async_graphs" boolean (·.asyncGraphs) ({ · with asyncGraphs := · }),
  .omitempty "graph_policy" text (·.graphPolicy) ({ · with graphPolicy := · }),
  .always "shape_calibration" text (·.shapeCalibration) ({ · with shapeCalibration := · }),
  .always "artifact_scope" text (·.artifactScope) ({ · with artifactScope := · })]

def recoveryPolicy : Codec RecoveryPolicy := struct true ⟨false, "", ""⟩ [
  .always "enabled" boolean (·.enabled) ({ · with enabled := · }),
  .always "source" text (·.source) ({ · with source := · }),
  .always "loader_backend" text (·.loaderBackend) ({ · with loaderBackend := · })]

def preparedCache : Codec PreparedCache := struct true ⟨"", ""⟩ [
  .always "unit" text (·.unit) ({ · with unit := · }),
  .always "path" text (·.path) ({ · with path := · })]

def cachePolicy : Codec CachePolicy := struct true ⟨false, [], []⟩ [
  .always "seed" boolean (·.seed) ({ · with seed := · }),
  .omitempty "paths" (slice text) (·.paths) ({ · with paths := · }),
  .omitempty "staged" (slice preparedCache) (·.staged) ({ · with staged := · })]

def capsulePolicy : Codec CapsulePolicy := struct true ⟨""⟩ [
  .omitempty "repository" text (·.repository) ({ · with repository := · })]

def compatibilityPolicy : Codec CompatibilityPolicy := struct true ⟨false, ""⟩ [
  .always "enforce_captured_driver_floor" boolean (·.enforceCapturedDriverFloor)
    ({ · with enforceCapturedDriverFloor := · }),
  .always "kernel" text (·.kernel) ({ · with kernel := · })]

def selection (strict : Bool) : Codec Selection := struct strict ⟨""⟩ [
  .always "id" text (·.id) ({ · with id := · })]

def validationPolicy : Codec ValidationPolicy := struct true ⟨"", "", ""⟩ [
  .always "health_path" text (·.healthPath) ({ · with healthPath := · }),
  .always "prompt" text (·.prompt) ({ · with prompt := · }),
  .always "expected" text (·.expected) ({ · with expected := · })]

def workloadIdentity : Codec WorkloadIdentity := struct true ⟨"", "", "", "", "", "", ""⟩ [
  .omitempty "cluster_id" text (·.clusterId) ({ · with clusterId := · }),
  .omitempty "intent_id" text (·.intentId) ({ · with intentId := · }),
  .omitempty "recipe" text (·.recipe) ({ · with recipe := · }),
  .omitempty "runtime" text (·.runtime) ({ · with runtime := · }),
  .omitempty "model" text (·.model) ({ · with model := · }),
  .omitempty "served_model_name" text (·.servedModelName) ({ · with servedModelName := · }),
  .omitempty "log_path" text (·.logPath) ({ · with logPath := · })]

def lifecyclePolicy : Codec LifecyclePolicy := struct true ⟨""⟩ [
  .omitempty "activation_state" text (·.activationState) ({ · with activationState := · })]

structure Presence where
  asyncGraphs : Option Bool
  graphPolicy : Option String
deriving DecidableEq

structure CachePresence where
  seed : Option Bool
  paths : Option (List String)
deriving DecidableEq

structure PolicyPresence where
  process : Option Presence
  cache : Option CachePresence
deriving DecidableEq

def presence : Codec Presence := struct false ⟨none, none⟩ [
  .always "async_graphs" (pointer boolean) (·.asyncGraphs) ({ · with asyncGraphs := · }),
  .always "graph_policy" (pointer text) (·.graphPolicy) ({ · with graphPolicy := · })]

def cachePresence : Codec CachePresence := struct false ⟨none, none⟩ [
  .always "seed" (pointer boolean) (·.seed) ({ · with seed := · }),
  .always "paths" (pointer (slice text)) (·.paths) ({ · with paths := · })]

def policyPresence : Codec PolicyPresence := struct false ⟨none, none⟩ [
  .always "process" (pointer presence) (·.process) ({ · with process := · }),
  .always "cache" (pointer cachePresence) (·.cache) ({ · with cache := · })]

/-- A structure of one field. -/
def wrapped {α : Type} (name : String) (codec : Codec α) : Codec α :=
  struct false codec.zero [.always name codec id fun _ content => content]

def decodePresence (document : Json) : Result (Option PolicyPresence) :=
  (wrapped "policy" (pointer policyPresence)).decode none document

def decodeHeader (document : Json) : Result Selection :=
  (wrapped "snapshot_driver" (selection false)).decode ⟨""⟩ document

variable [DoubleFormat]

def preparedPayloadValidation : Codec PreparedPayloadValidation :=
  struct true ⟨"", "", "", "", 0, 0, 0, 0, 0, 0, 0, 0, 0, DoubleFormat.zero⟩ [
    .always "record" text (·.record) ({ · with record := · }),
    .always "provider" text (·.provider) ({ · with provider := · }),
    .always "content_evidence" text (·.contentEvidence) ({ · with contentEvidence := · }),
    .omitempty "reason" text (·.reason) ({ · with reason := · }),
    .always "device" uint64 (·.device) ({ · with device := · }),
    .always "inode" uint64 (·.inode) ({ · with inode := · }),
    .always "size" int64 (·.size) ({ · with size := · }),
    .always "mtime_ns" int64 (·.mTimeNS) ({ · with mTimeNS := · }),
    .omitempty "ctime_ns" int64 (·.cTimeNS) ({ · with cTimeNS := · }),
    .omitempty "uid" uint32 (·.uid) ({ · with uid := · }),
    .omitempty "gid" uint32 (·.gid) ({ · with gid := · }),
    .omitempty "mode" uint32 (·.mode) ({ · with mode := · }),
    .omitempty "bytes_hashed" int64 (·.bytesHashed) ({ · with bytesHashed := · }),
    .omitempty "seconds" float64 (·.seconds) ({ · with seconds := · })]

def preparedPayload : Codec PreparedPayload := struct true ⟨"", "", 0, "", none⟩ [
  .always "worker" text (·.worker) ({ · with worker := · }),
  .always "path" text (·.path) ({ · with path := · }),
  .always "bytes" int64 (·.bytes) ({ · with bytes := · }),
  .always "sha256" text (·.sha256) ({ · with sha256 := · }),
  .omitempty "validation" (pointer preparedPayloadValidation) (·.validation)
    ({ · with validation := · })]

def nativePolicy : Codec NativePolicy := struct true ⟨"", "", .nil, [], ""⟩ [
  .omitempty "repository" text (·.repository) ({ · with repository := · }),
  .omitempty "revision" text (·.revision) ({ · with revision := · }),
  .omitempty "files_by_worker" (mapOf text) (·.filesByWorker) ({ · with filesByWorker := · }),
  .omitempty "staged" (slice preparedPayload) (·.staged) ({ · with staged := · }),
  .omitempty "materialize" text (·.materialize) ({ · with materialize := · })]

def weightPolicy : Codec WeightPolicy := struct true ⟨"", nativePolicy.zero, recoveryPolicy.zero⟩ [
  .always "mode" text (·.mode) ({ · with mode := · }),
  .always "native" nativePolicy (·.native) ({ · with native := · }),
  .always "recovery" recoveryPolicy (·.recovery) ({ · with recovery := · })]

def snapshotPolicy : Codec SnapshotPolicy :=
  struct true ⟨processPolicy.zero, weightPolicy.zero, cachePolicy.zero, capsulePolicy.zero,
    compatibilityPolicy.zero⟩ [
    .always "process" processPolicy (·.process) ({ · with process := · }),
    .always "weights" weightPolicy (·.weights) ({ · with weights := · }),
    .always "cache" cachePolicy (·.cache) ({ · with cache := · }),
    .always "capsule" capsulePolicy (·.capsule) ({ · with capsule := · }),
    .always "compatibility" compatibilityPolicy (·.compatibility) ({ · with compatibility := · })]

def newDefaultSnapshotPolicy : SnapshotPolicy where
  process := ⟨"cuda-criu", true, true, graphRecreateFromPlan, "auto", "portable"⟩
  weights := {
    mode := "auto"
    native := nativePolicy.zero
    recovery := ⟨true, "huggingface-safetensors", "auto"⟩ }
  cache := ⟨true, [canonicalRuntimeCachePath], []⟩
  capsule := capsulePolicy.zero
  compatibility := ⟨true, "capability"⟩

def defaultN610SnapshotPolicy : SnapshotPolicy where
  process := { (newDefaultSnapshotPolicy).process with graphPolicy := graphPreserveNCCLExec }
  weights := newDefaultSnapshotPolicy.weights
  cache := newDefaultSnapshotPolicy.cache
  capsule := newDefaultSnapshotPolicy.capsule
  compatibility := newDefaultSnapshotPolicy.compatibility

def defaultSnapshotPolicyForDriver (driverId : String) : Result SnapshotPolicy :=
  if driverId = "n580" then .ok newDefaultSnapshotPolicy
  else if driverId = "n610" then .ok defaultN610SnapshotPolicy
  else .error s!"unsupported snapshot driver {quoted driverId}"

def defaultValidationPolicy : ValidationPolicy :=
  ⟨"/health", "Reply with exactly: coldsnap-cuda-snapshot-ok", "coldsnap-cuda-snapshot-ok"⟩

/-- The policy over which a document is decoded: that of the driver it names, if it names one. -/
def basePolicy (document : Json) : SnapshotPolicy :=
  match decodeHeader document with
  | .error _ => newDefaultSnapshotPolicy
  | .ok driver =>
    match defaultSnapshotPolicyForDriver driver.id with
    | .error _ => newDefaultSnapshotPolicy
    | .ok policy => policy

def request : Codec Request :=
  struct true ⟨0, "", "", "", ⟨""⟩, "", "", launchSpec.zero, snapshotPolicy.zero,
    validationPolicy.zero, workloadIdentity.zero, lifecyclePolicy.zero⟩ [
    .always "format" int64 (·.format) ({ · with format := · }),
    .always "kind" text (·.kind) ({ · with kind := · }),
    .always "operation" text (·.operation) ({ · with operation := · }),
    .always "id" text (·.id) ({ · with id := · }),
    .always "snapshot_driver" (selection true) (·.driver) ({ · with driver := · }),
    .omitempty "artifact" text (·.artifact) ({ · with artifact := · }),
    .omitempty "output" text (·.output) ({ · with output := · }),
    .always "launch" launchSpec (·.launch) ({ · with launch := · }),
    .always "policy" snapshotPolicy (·.policy) ({ · with policy := · }),
    .always "validation" validationPolicy (·.validation) ({ · with validation := · }),
    .always "workload" workloadIdentity (·.workload) ({ · with workload := · }),
    .always "lifecycle" lifecyclePolicy (·.lifecycle) ({ · with lifecycle := · })]

def baseRequest (document : Json) : Request :=
  { request.zero with
    format := 4
    kind := "coldsnap-operation-request"
    policy := basePolicy document
    validation := defaultValidationPolicy }

/-- Caches are not seeded, and the document has no paths. -/
def dropsPaths (present : Option PolicyPresence) : Bool :=
  (present.bind PolicyPresence.cache).any fun cache => cache.seed = some false && cache.paths = none

/-- Graphs are not asynchronous, and the document has no policy for them. -/
def dropsGraphPolicy (present : Option PolicyPresence) : Bool :=
  (present.bind PolicyPresence.process).any fun process =>
    process.asyncGraphs = some false && process.graphPolicy = none

/-- Defaults which a document turns off by another field. -/
def Request.patch (value : Request) (present : Option PolicyPresence) : Request :=
  { value with policy := { value.policy with
      cache := { value.policy.cache with
        paths := if dropsPaths present then [] else value.policy.cache.paths }
      process := { value.policy.process with
        graphPolicy :=
          if dropsGraphPolicy present then "" else value.policy.process.graphPolicy } } }

variable [PayloadText]

def decodeRequest (document : Json) : Result Request := do
  let decoded ← within "decode ColdSnap request" (request.decode (baseRequest document) document)
  let present ← within "decode ColdSnap request presence" (decodePresence document)
  let resolved := decoded.patch present
  within "validate ColdSnap request" resolved.validate
  return resolved

def encodeRequest (value : Request) : Json := request.encode value

def requestSHA256 (value : Request) : Result String := do
  let digest ← PayloadFormat.canonicalSHA256 (PayloadText.bytes (request.encode value))
  return "sha256:" ++ digest

end Coldsnap.Snapshot
