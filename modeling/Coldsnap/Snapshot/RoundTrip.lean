import Coldsnap.Snapshot.Codec
import Coldsnap.Topology.Resolution

/-! # Encoding a request and decoding it again

Everything is read back as it was, but for fields which are left out where they are empty and
which the defaults then fill: the policy for graphs and the paths of caches.
-/

namespace Coldsnap.Snapshot

open Go Marshal Coldsnap.Topology List

@[simp] theorem modelSource_restores (value : ModelSource) :
    modelSource.Restores modelSource.zero value :=
  struct_reads (by decide) (by simp [modelSource]) rfl

@[simp] theorem mount_restores (value : Mount) : mount.Restores mount.zero value :=
  struct_reads (by decide) (by simp [mount]) rfl

@[simp] theorem texts_restore (base values : List String) : (slice text).Restores base values :=
  slice_restores_over (fun _ _ _ => text_restores _ _) base

@[simp] theorem launchUnit_restores (value : LaunchUnit) :
    launchUnit.Restores launchUnit.zero value :=
  struct_reads (by decide +kernel) (by simp [launchUnit]) (by simp [Slot.always, Slot.omitempty])

@[simp] theorem worker_restores (value : Worker) : worker.Restores worker.zero value :=
  struct_reads (by decide) (by simp [worker]) rfl

@[simp] theorem processGroup_restores (value : ProcessGroup) :
    processGroup.Restores processGroup.zero value :=
  struct_reads (by decide) (by simp [processGroup]) rfl

@[simp] theorem serviceDomain_restores (value : ServiceDomain) :
    serviceDomain.Restores serviceDomain.zero value :=
  struct_reads (by decide) (by simp [serviceDomain]) rfl

variable {payload : Json}

theorem adapterTopology_restores {value : AdapterTopology}
    (present : value.payload = some payload) :
    adapterTopology.Restores adapterTopology.zero value :=
  struct_reads (by decide) (by simp [present]) rfl

theorem executionGraph_restores {value : ExecutionGraph}
    (present : value.adapter.payload = some payload) :
    executionGraph.Restores executionGraph.zero value :=
  struct_reads (by decide) (by simp [executionGraph, adapterTopology_restores present]) rfl

theorem launchSpec_restores {value : LaunchSpec}
    (present : value.execution.adapter.payload = some payload) :
    launchSpec.Restores launchSpec.zero value :=
  struct_reads (by decide) (by simp [launchSpec, executionGraph_restores present]) rfl

@[simp] theorem recoveryPolicy_restores (base value : RecoveryPolicy) :
    recoveryPolicy.Restores base value :=
  struct_reads (by decide) (by simp) rfl

@[simp] theorem preparedCache_restores (value : PreparedCache) :
    preparedCache.Restores preparedCache.zero value :=
  struct_reads (by decide) (by simp [preparedCache]) rfl

@[simp] theorem capsulePolicy_restores (value : CapsulePolicy) :
    capsulePolicy.Restores capsulePolicy.zero value :=
  struct_reads (by decide) (by simp [capsulePolicy]) rfl

@[simp] theorem compatibilityPolicy_restores (base value : CompatibilityPolicy) :
    compatibilityPolicy.Restores base value :=
  struct_reads (by decide) (by simp) rfl

/-- The policy for graphs is left out when it is empty, and what was there before remains. -/
theorem processPolicy_reads (base value : ProcessPolicy) :
    processPolicy.Reads base value { value with
      graphPolicy := if value.graphPolicy = "" then base.graphPolicy else value.graphPolicy } := by
  have kept : text.Omits base.graphPolicy value.graphPolicy _ :=
    omits_kept decide_eq_true_iff (text_restores _ _)
  exact struct_reads (by decide) (by simp [kept]) rfl

theorem cachePolicy_reads {base : CachePolicy} (value : CachePolicy) (unstaged : base.staged = []) :
    cachePolicy.Reads base value { value with
      paths := if value.paths = [] then base.paths else value.paths } := by
  have kept : (slice text).Omits base.paths value.paths _ :=
    omits_kept isEmpty_iff (texts_restore _ _)
  exact struct_reads (by decide) (by simp [unstaged, kept]) rfl

@[simp] theorem selection_restores (strict : Bool) (base value : Selection) :
    (selection strict).Restores base value :=
  struct_reads (by decide) (by simp) rfl

@[simp] theorem validationPolicy_restores (base value : ValidationPolicy) :
    validationPolicy.Restores base value :=
  struct_reads (by decide) (by simp) rfl

@[simp] theorem workloadIdentity_restores (value : WorkloadIdentity) :
    workloadIdentity.Restores workloadIdentity.zero value :=
  struct_reads (by decide) (by simp [workloadIdentity]) rfl

@[simp] theorem lifecyclePolicy_restores (value : LifecyclePolicy) :
    lifecyclePolicy.Restores lifecyclePolicy.zero value :=
  struct_reads (by decide) (by simp [lifecyclePolicy]) rfl

def ProcessPolicy.present (value : ProcessPolicy) : Presence :=
  ⟨some value.asyncGraphs, if value.graphPolicy = "" then none else some value.graphPolicy⟩

def CachePolicy.present (value : CachePolicy) : CachePresence :=
  ⟨some value.seed, if value.paths = [] then none else some value.paths⟩

theorem presence_reads (value : ProcessPolicy) :
    presence.decode presence.zero (processPolicy.encode value) = .ok value.present := by
  apply struct_reads_from (by decide) ?_ ?_ rfl
  · exact nofun
  · simp [Slot.Reads, Slot.always, Slot.omitempty, presence]
    refine ⟨rfl, ?_⟩
    by_cases empty : value.graphPolicy = "" <;> simp [ProcessPolicy.present, pointer, text, empty]

theorem cachePresence_reads (value : CachePolicy) :
    cachePresence.decode cachePresence.zero (cachePolicy.encode value) = .ok value.present := by
  apply struct_reads_from (by decide) ?_ ?_ rfl
  · exact nofun
  · simp [Slot.Reads, Slot.always, Slot.omitempty, cachePresence]
    refine ⟨rfl, ?_⟩
    have listed : (pointer (slice text)).decode none ((slice text).encode value.paths) = _ :=
      pointer_reads (fun never => by cases never) (texts_restore [] value.paths)
    rw [listed, CachePolicy.present]
    by_cases empty : value.paths = [] <;> simp [slice, empty]

theorem request_distinct : Distinct ["format", "kind", "operation", "id", "snapshot_driver",
    "artifact", "output", "launch", "policy", "validation", "workload", "lifecycle"] := by
  decide

section Requests

variable [DoubleFormat]

@[simp] theorem preparedPayloadValidation_restores (value : PreparedPayloadValidation) :
    preparedPayloadValidation.Restores preparedPayloadValidation.zero value := by
  apply struct_reads
  · simp only [map_cons, map_nil, Slot.always, Slot.omitempty]
    decide +kernel
  · simp [preparedPayloadValidation]
  · simp [Slot.always, Slot.omitempty]

@[simp] theorem preparedPayload_restores (value : PreparedPayload) :
    preparedPayload.Restores preparedPayload.zero value := by
  have filled : ∀ content, preparedPayloadValidation.encode content ≠ .null := nofun
  apply struct_reads ?_ ?_ rfl
  · simp only [map_cons, map_nil, Slot.always, Slot.omitempty]
    decide
  · simp [preparedPayload, pointer_omits filled]

@[simp] theorem nativePolicy_restores (value : NativePolicy) :
    nativePolicy.Restores nativePolicy.zero value := by
  apply struct_reads ?_ ?_ rfl
  · simp only [map_cons, map_nil, Slot.omitempty]
    decide
  · simp [nativePolicy]

theorem weightPolicy_restores {base : WeightPolicy} (unnamed : base.native = nativePolicy.zero)
    (value : WeightPolicy) : weightPolicy.Restores base value := by
  apply struct_reads ?_ ?_ rfl
  · simp only [map_cons, map_nil, Slot.always]
    decide
  · simp [unnamed]

/-- What the defaults of a driver put where a policy is empty. -/
def SnapshotPolicy.over (base value : SnapshotPolicy) : SnapshotPolicy :=
  { value with
    process := { value.process with graphPolicy :=
      if value.process.graphPolicy = "" then base.process.graphPolicy
      else value.process.graphPolicy }
    cache := { value.cache with
      paths := if value.cache.paths = [] then base.cache.paths else value.cache.paths } }

/-- The defaults of the drivers differ from zero only in fields which are always written, in the
policy for graphs and in the paths of caches. -/
structure SnapshotPolicy.Plain (base : SnapshotPolicy) : Prop where
  native : base.weights.native = nativePolicy.zero
  staged : base.cache.staged = []
  capsule : base.capsule = capsulePolicy.zero

theorem snapshotPolicy_reads {base : SnapshotPolicy} (plain : base.Plain) (value : SnapshotPolicy) :
    snapshotPolicy.Reads base value (base.over value) := by
  apply struct_reads ?_ ?_ rfl
  · simp only [map_cons, map_nil, Slot.always]
    decide
  · simp [SnapshotPolicy.over, plain.capsule, processPolicy_reads,
      weightPolicy_restores plain.native, cachePolicy_reads _ plain.staged]

variable {value : Request}

theorem request_reads {base : Request} (fresh : base = { request.zero with
      format := base.format, kind := base.kind, policy := base.policy,
      validation := base.validation })
    (plain : base.policy.Plain) (present : value.launch.execution.adapter.payload = some payload) :
    request.Reads base value { value with policy := base.policy.over value.policy } := by
  rw [fresh]
  apply struct_reads
  · exact request_distinct
  · simp [request, launchSpec_restores present, snapshotPolicy_reads plain]
  · simp [Slot.always, Slot.omitempty]

/-- What the document of a policy presents. -/
def SnapshotPolicy.present (value : SnapshotPolicy) : PolicyPresence :=
  ⟨some value.process.present, some value.cache.present⟩

theorem policyPresence_reads (value : SnapshotPolicy) :
    policyPresence.decode policyPresence.zero (snapshotPolicy.encode value) =
      .ok value.present := by
  apply struct_reads_from ?_ ?_ ?_ rfl
  · simp only [map_cons, map_nil, Slot.always]
    decide
  · intro never
    cases never
  · simp [Slot.Reads, Slot.always, policyPresence]
    exact ⟨pointer_reads (fun never => by cases never) (presence_reads value.process),
      pointer_reads (fun never => by cases never) (cachePresence_reads value.cache)⟩

theorem decodePresence_encode (value : Request) :
    decodePresence (encodeRequest value) = .ok (some value.policy.present) := by
  apply struct_reads_from ?_ ?_ ?_ rfl
  · exact request_distinct
  · exact nofun
  · simp [Slot.Reads, Slot.always, Slot.omitempty]
    exact pointer_reads (fun never => by cases never) (policyPresence_reads value.policy)

theorem decodeHeader_encode (value : Request) :
    decodeHeader (encodeRequest value) = .ok value.driver := by
  apply struct_reads_from ?_ ?_ ?_ rfl
  · exact request_distinct
  · exact nofun
  · simp [Slot.Reads, Slot.always, Slot.omitempty]
    exact selection_restores false _ _

def Request.driverPolicy (value : Request) : SnapshotPolicy :=
  if value.driver.id = "n610" then defaultN610SnapshotPolicy else newDefaultSnapshotPolicy

/-- A request whose empty fields were filled by the defaults of its driver. -/
def Request.refilled (value : Request) : Request :=
  { value with policy := { value.policy with
      process := { value.policy.process with graphPolicy :=
        if value.policy.process.graphPolicy = "" ∧ value.policy.process.asyncGraphs = true
        then value.driverPolicy.process.graphPolicy else value.policy.process.graphPolicy }
      cache := { value.policy.cache with
        paths := if value.policy.cache.paths = [] ∧ value.policy.cache.seed = true
          then value.driverPolicy.cache.paths else value.policy.cache.paths } } }

theorem driverPolicy_plain (value : Request) : value.driverPolicy.Plain := by
  rw [Request.driverPolicy]
  split
  · exact ⟨rfl, rfl, rfl⟩
  · exact ⟨rfl, rfl, rfl⟩

theorem driverPolicy_filled (value : Request) :
    value.driverPolicy.process.graphPolicy ≠ "" ∧ value.driverPolicy.cache.paths ≠ [] := by
  rw [Request.driverPolicy]
  have named : graphPreserveNCCLExec ≠ "" ∧ graphRecreateFromPlan ≠ "" := by decide
  split
  · exact ⟨named.1, cons_ne_nil _ _⟩
  · exact ⟨named.2, cons_ne_nil _ _⟩

theorem basePolicy_encode (valid : value.driver.validate = .ok ()) :
    basePolicy (encodeRequest value) = value.driverPolicy := by
  simp only [Selection.validate, bind_eq_ok, check_eq_ok, Bool.or_eq_true, decide_eq_true_eq]
    at valid
  rcases valid with ⟨_, _, old | new⟩
  · simp [basePolicy, decodeHeader_encode, defaultSnapshotPolicyForDriver, Request.driverPolicy,
      old]
  · simp [basePolicy, decodeHeader_encode, defaultSnapshotPolicyForDriver, Request.driverPolicy,
      new]

/-- The patch takes back what a default puts where the document leaves a field out. -/
theorem patch_over (value : Request) :
    { value with policy := value.driverPolicy.over value.policy }.patch
      (some value.policy.present) = value.refilled := by
  have paths : (if dropsPaths (some value.policy.present) then []
      else (value.driverPolicy.over value.policy).cache.paths) =
      value.refilled.policy.cache.paths := by
    cases seed : value.policy.cache.seed <;> by_cases none : value.policy.cache.paths = [] <;>
      simp [dropsPaths, SnapshotPolicy.present, CachePolicy.present, SnapshotPolicy.over,
        Request.refilled, seed, none]
  have graphs : (if dropsGraphPolicy (some value.policy.present) then ""
      else (value.driverPolicy.over value.policy).process.graphPolicy) =
      value.refilled.policy.process.graphPolicy := by
    cases asynchronous : value.policy.process.asyncGraphs <;>
      by_cases none : value.policy.process.graphPolicy = "" <;>
      simp [dropsGraphPolicy, SnapshotPolicy.present, ProcessPolicy.present, SnapshotPolicy.over,
        Request.refilled, asynchronous, none]
  rw [Request.patch]
  simp only [paths, graphs]
  rfl

theorem refilled_eq_iff (value : Request) :
    value.refilled = value ↔
      (value.policy.process.asyncGraphs = true → value.policy.process.graphPolicy ≠ "") ∧
      (value.policy.cache.seed = true → value.policy.cache.paths ≠ []) := by
  rcases driverPolicy_filled value with ⟨graphs, paths⟩
  constructor
  · intro same
    constructor
    · intro asynchronous empty
      have kept := congrArg (fun other : Request => other.policy.process.graphPolicy) same
      simp only [Request.refilled, empty, asynchronous, and_self, if_true] at kept
      exact graphs kept
    · intro seeded empty
      have kept := congrArg (fun other : Request => other.policy.cache.paths) same
      simp only [Request.refilled, empty, seeded, and_self, if_true] at kept
      exact paths kept
  · rintro ⟨named, listed⟩
    rw [Request.refilled, if_neg fun both => named both.2 both.1,
      if_neg fun both => listed both.2 both.1]

variable [PayloadText]

theorem driver_of_validate (valid : value.validate = .ok ()) : value.driver.validate = .ok () := by
  simp only [Request.validate, Request.validateOperation, bind_eq_ok, within_eq_ok] at valid
  rcases valid with ⟨_, ⟨_, _, _, _, _, _, _, driver, _⟩, _⟩
  exact driver

theorem payload_of_validate (valid : value.validate = .ok ()) :
    ∃ payload, value.launch.execution.adapter.payload = some payload := by
  simp only [Request.validate, bind_eq_ok] at valid
  rcases valid with ⟨_, _, _, _, _, launch, _⟩
  simp only [LaunchSpec.validate, Topology.LaunchSpec.validate, bind_eq_ok] at launch
  rcases launch with ⟨_, _, _, _, _, _, _, _, graph⟩
  simp only [Topology.ExecutionGraph.validate, bind_eq_ok] at graph
  rcases graph with ⟨_, _, _, _, _, _, _, _, _, _, _, _, _, _, _, _, _, _, adapter⟩
  simp only [Topology.AdapterTopology.validate, bind_eq_ok, check_eq_ok, Bool.and_eq_true]
    at adapter
  rcases adapter with ⟨_, ⟨_, filled⟩, _⟩
  cases payload : value.launch.execution.adapter.payload with
  | none => simp [LaunchSpec.topology, payload] at filled
  | some content => exact ⟨content, rfl⟩

theorem decodeRequest_encode (valid : value.validate = .ok ()) :
    decodeRequest (encodeRequest value) = do
      within "validate ColdSnap request" value.refilled.validate
      return value.refilled := by
  rcases payload_of_validate valid with ⟨payload, present⟩
  have base := basePolicy_encode (driver_of_validate valid)
  have plain : (baseRequest (encodeRequest value)).policy.Plain := by
    rw [baseRequest, base]
    exact driverPolicy_plain value
  have read : request.decode (baseRequest (encodeRequest value)) (encodeRequest value) =
      .ok { value with policy := value.driverPolicy.over value.policy } := by
    rw [← base]
    exact request_reads rfl plain present
  rw [decodeRequest, read, decodePresence_encode, ← patch_over]
  rfl

/-- A request which was decoded is decoded again from its own document exactly when no default
takes the place of an empty field. -/
theorem roundTrip_iff {document : Json} {value : Request}
    (accepted : decodeRequest document = .ok value) :
    (∃ again, decodeRequest (encodeRequest value) = .ok again ∧ again = value ∧
      requestSHA256 again = requestSHA256 value) ↔
    (value.policy.process.asyncGraphs = true → value.policy.process.graphPolicy ≠ "") ∧
    (value.policy.cache.seed = true → value.policy.cache.paths ≠ []) := by
  have valid : value.validate = .ok () := by
    simp only [decodeRequest, bind_eq_ok, within_eq_ok, pure_eq_ok] at accepted
    rcases accepted with ⟨decoded, _, present, _, _, valid, rfl⟩
    exact valid
  rw [← refilled_eq_iff, decodeRequest_encode valid]
  constructor
  · rintro ⟨again, decoded, rfl, _⟩
    simp only [bind_eq_ok, pure_eq_ok] at decoded
    rcases decoded with ⟨_, _, same⟩
    exact same
  · intro same
    rw [same, valid]
    exact ⟨value, rfl, rfl, rfl⟩

/-- The fields of a request which the defaults may fill. -/
def Request.fillable (value : Request) : Bool × String × Bool × List String :=
  (value.policy.process.asyncGraphs, value.policy.process.graphPolicy, value.policy.cache.seed,
    value.policy.cache.paths)

theorem exists_of_fillable {document : Json} {fields : Bool × String × Bool × List String}
    (found : (decodeRequest document).toOption.map Request.fillable = some fields) :
    ∃ value, decodeRequest document = .ok value ∧ value.fillable = fields := by
  rcases Option.map_eq_some_iff.mp found with ⟨value, decoded, filled⟩
  refine ⟨value, ?_, filled⟩
  cases outcome : decodeRequest document with
  | error error =>
    rw [outcome] at decoded
    cases decoded
  | ok other =>
    rw [outcome] at decoded
    cases decoded
    rfl

def graphPolicies (document : Json) : Option (String × String) :=
  (decodeRequest document).toOption.bind fun value =>
    (decodeRequest (encodeRequest value)).toOption.map fun again =>
      (value.policy.process.graphPolicy, again.policy.process.graphPolicy)

end Requests

@[reducible] def PayloadText.empty : PayloadText where
  toPayloadFormat := .empty
  bytes _ := [0x7B, 0x7D]

def singleLaunch : LaunchSpec where
  engine := "vllm"
  model := ⟨"model", "main", ""⟩
  units := [⟨"unit-0", 0, "10.0.0.1", ["0"], pinnedDigest, pinnedDigest, ["serve"], .nil, []⟩]
  execution := {
    workers := [⟨"worker-0", "unit-0", "engine", 0, [0]⟩]
    groups := [⟨"world", "vllm:world", "engine", ["worker-0"]⟩]
    services := [⟨"engine", "vllm:engine", ["worker-0"]⟩]
    adapter := ⟨emptyTopology.schema, emptyTopology.digest, some (.object [])⟩ }

def captureDocument (process : Members) : Json :=
  .object [("operation", .text "capture"), ("id", .text "capture-0"),
    ("snapshot_driver", .object [("id", .text "n580")]), ("output", .text "/snapshots/model"),
    ("launch", launchSpec.encode singleLaunch), ("policy", .object [("process", .object process)])]

/-- A request which leaves its policy to the defaults. -/
theorem roundTrip_capture : ∃ value,
    @decodeRequest .decimal .empty (captureDocument []) = .ok value ∧
    ∃ again, @decodeRequest .decimal .empty (@encodeRequest .decimal value) = .ok again ∧
      again = value ∧
      @requestSHA256 .decimal .empty again = @requestSHA256 .decimal .empty value := by
  let := DoubleFormat.decimal
  let := PayloadText.empty
  have found : (decodeRequest (captureDocument [])).toOption.map Request.fillable =
      some (true, "recreate-from-plan", true, ["/var/cache/coldsnap/runtime"]) := by
    decide +kernel
  rcases exists_of_fillable found with ⟨value, accepted, filled⟩
  simp only [Request.fillable, Prod.mk.injEq] at filled
  refine ⟨value, accepted, ?_⟩
  apply (roundTrip_iff accepted).mpr
  rw [filled.2.1, filled.2.2.2]
  exact ⟨fun _ => by decide, fun _ => cons_ne_nil _ _⟩

/-- A request which asks for the empty policy for graphs comes back with the default one. -/
theorem graphPolicy_refilled :
    @graphPolicies .decimal .empty (captureDocument [("graph_policy", .text "")]) =
      some ("", "recreate-from-plan") := by
  decide +kernel

end Coldsnap.Snapshot
