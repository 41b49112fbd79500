import Coldsnap.Snapshot.Artifact
import Coldsnap.Snapshot.RoundTrip

/-! # Where objects and files may lie

What validation says about the paths of objects in an artifact and the names of files in a
request, once they are joined to a root.
-/

namespace Coldsnap.Snapshot

open Go Marshal Coldsnap.Topology List Paths

/-! ## Checked names -/

/-- A name which is relative and clean, and does not start with `../`. -/
structure Lexical (name : String) : Prop where
  relative : isAbs name = false
  cleaned : clean name = name
  below : ¬['.', '.', '/'] <+: name.toList

variable {name : String}

theorem Lexical.inside_iff (lexical : Lexical name) (root : String) :
    Inside root (join [root, name]) ↔ name ≠ "." ∧ name ≠ ".." :=
  inside_join_iff lexical.relative lexical.cleaned lexical.below

theorem not_startsWith_parent (passed : startsWith name "../" = false) :
    ¬['.', '.', '/'] <+: name.toList := by
  have start : "../".toList = ['.', '.', '/'] := by decide
  rw [startsWith, start] at passed
  intro leading
  rw [ isPrefixOf_iff_prefix.mpr leading] at passed
  cases passed

theorem lexical_of_validObjectPath {path : String} (valid : validObjectPath path = true) :
    Lexical path ∧ path ≠ "." := by
  simp only [validObjectPath, Bool.and_eq_true, Bool.not_eq_true', decide_eq_true_eq] at valid
  rcases valid with ⟨⟨⟨⟨⟨_, relative⟩, cleaned⟩, other⟩, below⟩, _⟩
  exact ⟨⟨relative, cleaned, not_startsWith_parent below⟩, other⟩

theorem lexical_of_validFileName {entry : String × String} (valid : validFileName entry = true) :
    Lexical entry.2 := by
  simp only [validFileName, Bool.and_eq_true, Bool.not_eq_true', decide_eq_true_eq] at valid
  rcases valid with ⟨⟨⟨_, relative⟩, cleaned⟩, below⟩
  exact ⟨relative, cleaned, not_startsWith_parent below⟩

/-! ## Objects -/

/-- What validation says about one object. -/
structure Object.Checked (object : Object) : Prop where
  lexical : Lexical object.path
  other : object.path ≠ "."
  digest : digestPattern object.sha256 = true

variable {launch : LaunchSpec} {allowSharedPaths : Bool} {required : Option (List String)}

theorem checked_of_validateObject {state next : ObjectState} {object : Object}
    (valid : validateObject launch required allowSharedPaths state object = .ok next) :
    object.Checked := by
  simp only [validateObject, bind_eq_ok, check_eq_ok, Bool.and_eq_true] at valid
  rcases valid with ⟨_, ⟨⟨⟨⟨_, path⟩, _⟩, digest⟩, _⟩, _⟩
  rcases lexical_of_validObjectPath path with ⟨lexical, other⟩
  exact ⟨lexical, other, digest⟩

variable {objects : List Object}

theorem checked_of_validateObjects
    (valid : validateObjectsWithPathPolicy objects launch required allowSharedPaths = .ok ()) :
    ∀ object ∈ objects, object.Checked := by
  rw [validateObjectsWithPathPolicy, bind_eq_ok] at valid
  rcases valid with ⟨final, loop, _⟩
  exact forEach_checks Object.Checked checked_of_validateObject loop

theorem checked_of_validateWorkerObjects {label : String}
    (valid : validateWorkerObjectsWithPathPolicy objects launch label allowSharedPaths = .ok ()) :
    ∀ object ∈ objects, object.Checked := by
  rw [validateWorkerObjectsWithPathPolicy, bind_eq_ok] at valid
  rcases valid with ⟨_, _, valid⟩
  exact checked_of_validateObjects valid

theorem slash_notMem_digestHex {digest : String} (valid : digestPattern digest = true) :
    '/' ∉ (digestHex digest).toList := by
  simp only [digestPattern, Bool.and_eq_true] at valid
  rcases valid with ⟨⟨leading, _⟩, digits⟩
  have hex : (digestHex digest).toList = digest.toList.drop 7 := by
    rw [digestHex, startsWith, leading, if_pos rfl, String.toList_ofList]
  rw [hex]
  intro slash
  exact absurd (all_eq_true.mp digits '/' slash) (by decide)

/-- A payload lies two directories below its root. -/
theorem payloadPath_ne_parent {object : Object} (valid : digestPattern object.sha256 = true) :
    payloadPath object ≠ ".." := by
  let names := ["model-payloads", "sha256", digestHex object.sha256 ++ ".pack"]
  let parts := names.map String.toList
  have joined : payloadPath object = Paths.clean (Paths.joinParts names) := rfl
  have slashless : ∀ part ∈ parts, '/' ∉ part := by
    simp only [parts, names, map_cons, map_nil, forall_mem_cons,
      String.toList_append, mem_append, not_or]
    exact ⟨by decide, by decide, ⟨slash_notMem_digestHex valid, by decide⟩, by simp⟩
  have plain : ∀ part ∈ parts, Paths.Plain part := by
    simp only [parts, names, map_cons, map_nil, forall_mem_cons]
    exact ⟨.of_length (by decide), .of_length (by decide), .of_length (by simp), by simp⟩
  have text : (Paths.joinParts names).toList.splitOn '/' = parts := by
    rw [Paths.joinParts, String.toList_ofList]
    exact splitOn_intercalate '/' slashless (cons_ne_nil _ _)
  intro parent
  have elements := congrArg Paths.elements (joined.symm.trans parent)
  rw [Paths.elements_clean, Paths.elements, text, Paths.foldl_push_plain _ plain,
    append_nil, reverse_reverse] at elements
  have count : parts.length = (Paths.elements "..").length := congrArg length elements
  have one : (Paths.elements "..").length = 1 := by decide
  have three : parts.length = 3 := rfl
  omega

/-! ## Accepted artifacts and requests -/

theorem known_of_contract {contract : Contract} (valid : contract.validate = .ok ()) :
    contract.id = "n610" ∨ contract.id = "n580" := by
  rw [Contract.validate, bind_eq_ok] at valid
  rcases valid with ⟨expected, found, _⟩
  by_cases n580 : contract.id = "n580"
  · exact .inr n580
  · by_cases n610 : contract.id = "n610"
    · exact .inl n610
    · rw [lookupContract, if_neg n580, if_neg n610] at found
      cases found

theorem checked_of_capsule {capsule : Capsule} {driver : Contract}
    (valid : capsule.validate driver launch = .ok ())
    : ∀ object ∈ capsule.objects, object.Checked := by
  simp only [Capsule.validate, bind_eq_ok, within_eq_ok] at valid
  rcases valid with ⟨_, _, _, _, _, _, _, _, valid⟩
  exact checked_of_validateObjects valid

/-- The paths of payloads follow from their digests, so none leads upwards. -/
theorem checked_of_payloads {provider : ModelPayloadProvider}
    (valid : provider.validate launch = .ok ()) :
    ∀ object ∈ provider.objects, object.Checked ∧ object.path ≠ ".." := by
  simp only [ModelPayloadProvider.validate, bind_eq_ok, within_eq_ok, check_eq_ok] at valid
  rcases valid with ⟨_, _, _, valid, addressed⟩
  intro object member
  have checked := checked_of_validateWorkerObjects valid object member
  have path := all_eq_true.mp addressed object member
  rw [Bool.and_eq_true, decide_eq_true_eq, decide_eq_true_eq] at path
  refine ⟨checked, ?_⟩
  rw [path.2]
  exact payloadPath_ne_parent checked.digest

theorem checked_of_recovery {recovery : RecoveryProvider} {driver : Contract}
    (known : driver.id = "n610" ∨ driver.id = "n580")
    (valid : recovery.validate driver launch = .ok ()) :
    ∀ object ∈ recovery.replayPlan, object.Checked := by
  have replayed : (driver.id = "n610" || driver.id = "n580") = true := by
    rwa [Bool.or_eq_true, decide_eq_true_eq, decide_eq_true_eq]
  simp only [RecoveryProvider.validate, replayed, if_true, bind_eq_ok, within_eq_ok] at valid
  rcases valid with ⟨_, _, _, _, valid⟩
  exact checked_of_validateWorkerObjects valid

def WeightProviders.payloads (weights : WeightProviders) : List Object :=
  weights.modelPayloads.elim [] (·.objects)

def NativePolicy.fileNames [DoubleFormat] (policy : NativePolicy) : List String :=
  policy.filesByWorker.entries.map Prod.snd

section Accepted

variable [DoubleFormat] [PayloadText]

/-- What an accepted artifact says about its objects. -/
structure Artifact.Checked (artifact : Artifact) : Prop where
  capsule : ∀ object ∈ artifact.capsule.objects, object.Checked
  payloads : ∀ object ∈ artifact.weights.payloads, object.Checked ∧ object.path ≠ ".."
  replayPlan : ∀ object ∈ artifact.weights.recovery.replayPlan, object.Checked

theorem checked_of_artifact {artifact : Artifact} (valid : artifact.validate = .ok ()) :
    artifact.Checked := by
  simp only [Artifact.validate, bind_eq_ok, within_eq_ok] at valid
  rcases valid with ⟨_, _, _, _, _, driver, _, _, _, _, _, _, _, _, _, capsule, _, _, _, _, _, _,
    _, _, _, _, _, payloads, _, recovery, _⟩
  refine ⟨checked_of_capsule capsule, ?_, checked_of_recovery (known_of_contract driver) recovery⟩
  intro object member
  rw [WeightProviders.payloads] at member
  cases provided : artifact.weights.modelPayloads with
  | none =>
    rw [provided] at member
    cases member
  | some provider =>
    rw [provided] at member payloads
    exact checked_of_payloads payloads object member

theorem lexical_of_request {request : Request} (valid : request.validate = .ok ()) :
    ∀ name ∈ request.policy.weights.native.fileNames, Lexical name := by
  simp only [Request.validate, bind_eq_ok] at valid
  rcases valid with ⟨_, _, _, _, _, _, _, policy, _⟩
  simp only [SnapshotPolicy.validate, bind_eq_ok] at policy
  rcases policy with ⟨_, _, _, weights, _⟩
  simp only [WeightPolicy.validate, bind_eq_ok, check_eq_ok] at weights
  rcases weights with ⟨_, _, _, _, _, _, _, _, _, names, _⟩
  intro name member
  rcases mem_map.mp member with ⟨entry, listed, rfl⟩
  exact lexical_of_validFileName (all_eq_true.mp names entry listed)

def Artifact.paths (artifact : Artifact) : List String :=
  (artifact.capsule.objects ++ artifact.weights.payloads ++
    artifact.weights.recovery.replayPlan).map (·.path)

/-- Every path of an accepted artifact and every file name of an accepted request lies inside any
root to which it is joined, if and only if no object of the capsule or of the replay plan has the
path `..` and no file has the name `.` or `..`. -/
theorem confined_iff {artifact : Artifact} {request : Request}
    (committed : artifact.validate = .ok ()) (accepted : request.validate = .ok ()) :
    (∀ root, ∀ name ∈ artifact.paths ++ request.policy.weights.native.fileNames,
      Inside root (join [root, name])) ↔
    (∀ object ∈ artifact.capsule.objects, object.path ≠ "..") ∧
    (∀ object ∈ artifact.weights.recovery.replayPlan, object.path ≠ "..") ∧
    ∀ name ∈ request.policy.weights.native.fileNames, name ≠ "." ∧ name ≠ ".." := by
  have checked := checked_of_artifact committed
  have names := lexical_of_request accepted
  simp only [Artifact.paths, map_append, forall_mem_append, forall_mem_map]
  constructor
  · intro inside
    rcases inside "" with ⟨⟨⟨capsule, _⟩, replayPlan⟩, files⟩
    refine ⟨?_, ?_, ?_⟩
    · intro object member
      exact (((checked.capsule object member).lexical.inside_iff "").mp (capsule object member)).2
    · intro object member
      have lexical := (checked.replayPlan object member).lexical
      exact ((lexical.inside_iff "").mp (replayPlan object member)).2
    · intro name member
      exact ((names name member).inside_iff "").mp (files name member)
  · rintro ⟨capsule, replayPlan, files⟩ root
    refine ⟨⟨⟨?_, ?_⟩, ?_⟩, ?_⟩
    · intro object member
      have known := checked.capsule object member
      exact (known.lexical.inside_iff root).mpr ⟨known.other, capsule object member⟩
    · intro object member
      rcases checked.payloads object member with ⟨known, below⟩
      exact (known.lexical.inside_iff root).mpr ⟨known.other, below⟩
    · intro object member
      have known := checked.replayPlan object member
      exact (known.lexical.inside_iff root).mpr ⟨known.other, replayPlan object member⟩
    · intro name member
      exact ((names name member).inside_iff root).mpr (files name member)

/-! ## An artifact of one worker -/

def workerObject (role path : String) : Object :=
  ⟨role, workerOwner "worker-0", path, 1, pinnedDigest⟩

def recreatedGraph (planSHA256 : String) : GraphPolicyRecord where
  format := 1
  requested := graphRecreateFromPlan
  effective := graphRecreateFromPlan
  decision := "requested_policy_is_supported"
  audit := ⟨1, true, 0, 0, false, 0, 0⟩
  recipe :=
    ⟨1, "coldsnap-engine-graph-recipe", "vllm", "engine-native-async", "auto", 0, planSHA256⟩

def singleArtifact (path : String) : Artifact where
  format := 9
  kind := "coldsnap-snapshot-artifact"
  state := "committed"
  captureId := "capture-0"
  requestSHA256 := pinnedDigest
  driver := n580Contract
  requires := n580Contract.baseRequirements
  launch := singleLaunch
  compatibility := ⟨"placement-independent-v1",
    [⟨"unit-0", "x86_64", "6.8", "580.1", "580", "13.0", [⟨0, "GPU", "9.0"⟩]⟩]⟩
  capsule := {
    images := [⟨"unit-0", pinnedDigest, pinnedDigest, "/capsule", ⟨"n580", 1⟩⟩]
    objects := [workerObject "process" path] }
  runtime := []
  shapeCalibration := none
  graph := recreatedGraph ((graphPlanSHA256 (recreatedGraph "") singleLaunch none).toOption.getD "")
  weights := {
    modelPayloads := some ⟨"", "", [workerObject "model-weight-payload"
      (payloadPath (workerObject "" ""))]⟩
    native := some ⟨"n580", 1⟩
    recovery := ⟨"huggingface-safetensors", "model", "main", ⟨"n580", 1⟩, "coldsnap-replay",
      [workerObject "replay-plan" "plans/worker-0.json"]⟩ }
  acceptance := ⟨true, "ok"⟩

def namedRequest (name : String) : Request where
  format := 4
  kind := "coldsnap-operation-request"
  operation := "restore"
  id := "restore-0"
  driver := ⟨"n580"⟩
  artifact := "/snapshots/model"
  output := ""
  launch := singleLaunch
  policy := {
    process := newDefaultSnapshotPolicy.process
    weights := {
      mode := "auto"
      native := ⟨"models/payloads", "main", StringMap.nil.assign ("worker-0", name), [], ""⟩
      recovery := newDefaultSnapshotPolicy.weights.recovery }
    cache := newDefaultSnapshotPolicy.cache
    capsule := ⟨""⟩
    compatibility := newDefaultSnapshotPolicy.compatibility }
  validation := defaultValidationPolicy
  workload := .none
  lifecycle := ⟨""⟩

end Accepted

section Sample

local instance sampleDoubles : DoubleFormat := .decimal
local instance sampleTexts : PayloadText := .empty

theorem singleLaunch_valid : singleLaunch.validate = .ok () := by
  decide +kernel

theorem singleArtifact_valid {path : String}
    (valid : validateObjects [workerObject "process" path] singleLaunch none = .ok ()) :
    (singleArtifact path).validate = .ok () := by
  have identity : (idPattern "capture-0" && digestPattern pinnedDigest) = true := by
    decide +kernel
  have driver : n580Contract.validate = .ok () := by decide +kernel
  have requirements : n580Contract.baseRequirements.validate = .ok () := by decide +kernel
  have platforms : (singleArtifact "").compatibility.validate singleLaunch = .ok () := by
    decide +kernel
  have image : forEach (validateImage n580Contract) []
      [⟨"unit-0", pinnedDigest, pinnedDigest, "/capsule", ⟨"n580", 1⟩⟩] = .ok ["unit-0"] := by
    decide +kernel
  have graph : (singleArtifact "").graph.validate singleLaunch none = .ok () := by decide +kernel
  have payloads : (singleArtifact "").weights.modelPayloads.elim (.ok ())
      (·.validate singleLaunch) = .ok () := by
    decide +kernel
  have recovery : (singleArtifact "").weights.recovery.validate n580Contract singleLaunch =
      .ok () := by
    decide +kernel
  have capsule : (singleArtifact path).capsule.validate n580Contract singleLaunch = .ok () := by
    simp only [Capsule.validate, bind_eq_ok, within_eq_ok, check_eq_ok]
    exact ⟨(), rfl, (), rfl, _, image, (), by decide, valid⟩
  simp only [Artifact.validate, bind_eq_ok, within_eq_ok, check_eq_ok]
  exact ⟨(), rfl, (), identity, (), driver, (), requirements, (), rfl, (), singleLaunch_valid, (),
    platforms, (), capsule, _, rfl, (), rfl, (), graph, (), rfl, (), rfl, (), payloads, (),
    recovery, rfl⟩

theorem namedRequest_valid (valid : validFileName ("worker-0", name) = true) :
    (namedRequest name).validate = .ok () := by
  have operation : (namedRequest "").validateOperation = .ok () := by decide +kernel
  have lifecycle : (namedRequest "").validateLifecycle = .ok () := by decide +kernel
  have process : newDefaultSnapshotPolicy.process.validate = .ok () := by decide +kernel
  have cache : newDefaultSnapshotPolicy.cache.validate = .ok () := by decide +kernel
  have commands : (namedRequest "").validateCommands = .ok () := by decide +kernel
  have caches : (namedRequest "").validateCaches = .ok () := by decide +kernel
  have weights : (namedRequest name).policy.weights.validate = .ok () := by
    simp only [WeightPolicy.validate, bind_eq_ok, check_eq_ok]
    have names := all_eq_true.mpr fun entry member => by
      rwa [mem_singleton.mp member]
    exact ⟨(), rfl, (), rfl, (), rfl, (), rfl, (), names, _, rfl, (), rfl, (), rfl, rfl⟩
  have policy : (namedRequest name).policy.validate = .ok () := by
    simp only [SnapshotPolicy.validate, bind_eq_ok, check_eq_ok]
    exact ⟨(), process, (), weights, (), cache, (), rfl, rfl⟩
  have payloads : (namedRequest name).validatePayloads = .ok () := by
    simp only [Request.validatePayloads, bind_eq_ok, check_eq_ok]
    exact ⟨(), rfl, (), rfl, (), rfl, rfl⟩
  have probe : (defaultValidationPolicy.healthPath ≠ "" &&
      startsWith defaultValidationPolicy.healthPath "/" &&
      defaultValidationPolicy.prompt ≠ "" && defaultValidationPolicy.expected ≠ "") = true := by
    decide
  simp only [Request.validate, bind_eq_ok, check_eq_ok]
  exact ⟨(), operation, (), lifecycle, (), singleLaunch_valid, (), policy, (), commands, (), rfl,
    (), rfl, (), caches, (), payloads, (), probe, rfl⟩

theorem confined_single :
    (singleArtifact "process/worker-0.img").validate = .ok () ∧
    (namedRequest "worker-0.pack").validate = .ok () ∧
    ∀ root, ∀ name ∈ (singleArtifact "process/worker-0.img").paths ++
      (namedRequest "worker-0.pack").policy.weights.native.fileNames,
      Inside root (join [root, name]) := by
  have committed : (singleArtifact "process/worker-0.img").validate = .ok () :=
    singleArtifact_valid (by decide +kernel)
  have accepted : (namedRequest "worker-0.pack").validate = .ok () :=
    namedRequest_valid (by decide +kernel)
  exact ⟨committed, accepted,
    (confined_iff committed accepted).mpr ⟨by decide, by decide, by decide⟩⟩

/-- The path `..` of an object and the names `.` and `..` of a file are accepted, and joined to a
root they name the directory above it or the root itself. -/
theorem parent_accepted :
    (singleArtifact "..").validate = .ok () ∧ (namedRequest ".").validate = .ok () ∧
    (namedRequest "..").validate = .ok () ∧ ".." ∈ (singleArtifact "..").paths ∧
    join ["/snapshots/model", ".."] = "/snapshots" ∧
    join ["/snapshots/model", "."] = "/snapshots/model" ∧
    ¬Inside "/snapshots/model" "/snapshots" ∧
    ¬Inside "/snapshots/model" "/snapshots/model" := by
  have above : join ["/snapshots/model", ".."] = "/snapshots" := by decide
  have same : join ["/snapshots/model", "."] = "/snapshots/model" := by decide
  refine ⟨singleArtifact_valid (by decide +kernel), namedRequest_valid (by decide +kernel),
    namedRequest_valid (by decide +kernel), mem_cons_self, above, same, ?_, ?_⟩
  · rw [← above]
    exact not_inside_join_parent _
  · nth_rewrite 2 [← same]
    exact not_inside_join_dot _

end Sample

end Coldsnap.Snapshot
