import Coldsnap.Snapshot.Artifact

/-! # Receipts of operations

The receipt of `internal/snapshot/receipt.go` and the timing of `internal/snapshot/timing.go`,
what their `Validate` accepts, and the receipt of an operation which has ended.
-/

namespace Coldsnap.Snapshot

open Go Marshal Coldsnap.Topology DoubleFormat

def isSpace (character : Char) : Bool :=
  let code := character.toNat
  (0x09 ≤ code && code ≤ 0x0D) || code = 0x20 || code = 0x85 || code = 0xA0 || code = 0x1680 ||
    (0x2000 ≤ code && code ≤ 0x200A) || code = 0x2028 || code = 0x2029 || code = 0x202F ||
    code = 0x205F || code = 0x3000

def safeTimingText (value : String) (maximum : Nat) : Bool :=
  value ≠ "" && value.utf8ByteSize ≤ maximum &&
    !(value.toList.head?.any isSpace || value.toList.getLast?.any isSpace) &&
    value.toList.all fun character => 0x20 ≤ character.toNat && character.toNat ≠ 0x7F

structure TimingClock where
  id : String
  source : String
  originUnixNS : Int64
  unit : String
  worker : String
deriving DecidableEq

def validateClock (clocks : List String) (clock : TimingClock) : Result (List String) := do
  check (idPattern clock.id && clock.id ∉ clocks && safeTimingText clock.source 64 &&
      0 < clock.originUnixNS.toInt && (clock.unit = "" || idPattern clock.unit) &&
      (clock.worker = "" || idPattern clock.worker))
    "ColdSnap operation timing clock is invalid"
  return clock.id :: clocks

structure OperationResult where
  artifact : String
  output : String
  prepared : Bool
deriving DecidableEq

def replaySemantics (operation : String) (prepareOnly : Bool) : String :=
  if prepareOnly then "safe-repeat"
  else if operation = "capture" then "conflict-on-existing-output"
  else if operation = "publish" || operation = "publish-native" then "content-idempotent"
  else if operation = "restore" then "reconcile-replace"
  else if operation = "sleep" || operation = "wake" || operation = "status" then "convergent"
  else "unsupported"

variable [DoubleFormat]

def finiteNonnegative (value : Double) : Bool :=
  !isNegative value && isFinite value

structure TimingSpan where
  id : String
  parent : String
  name : String
  clock : String
  startOffsetSeconds : Double
  durationSeconds : Double
  status : String
  attributes : StringMap String

structure OperationTiming where
  format : Int64
  clocks : List TimingClock
  spans : List TimingSpan

def validateSpan (clocks : List String) (spans : List String) (span : TimingSpan) :
    Result (List String) := do
  check (idPattern span.id && span.id ∉ spans && safeTimingText span.name 128 &&
      clocks.contains span.clock && finiteNonnegative span.startOffsetSeconds &&
      finiteNonnegative span.durationSeconds && (span.status = "ok" || span.status = "error") &&
      span.attributes.entries.length ≤ 32)
    "ColdSnap operation timing span is invalid"
  check (span.attributes.entries.all fun entry =>
      idPattern entry.1 && safeTimingText entry.2 512)
    "ColdSnap operation timing span attributes are invalid"
  return span.id :: spans

def parentOf (spans : List TimingSpan) (id : String) : String :=
  (spans.find? (·.id = id)).elim "" (·.parent)

/-- The way up from a span sees no span twice. Every turn sees another one, so there are no more
turns than spans. -/
def acyclicFrom (spans : List TimingSpan) : Nat → List String → String → Bool
  | 0, _, _ => false
  | turns + 1, seen, parent =>
    parent = "" ||
      (!seen.contains parent && acyclicFrom spans turns (parent :: seen) (parentOf spans parent))

def OperationTiming.validate (timing : OperationTiming) : Result Unit := do
  check (timing.format = 1) "unsupported ColdSnap operation timing format"
  check (timing.clocks ≠ [] && timing.clocks.length ≤ 128)
    "ColdSnap operation timing clock inventory is invalid"
  check (!timing.spans.isEmpty && timing.spans.length ≤ 2048)
    "ColdSnap operation timing span inventory is invalid"
  let clocks ← forEach validateClock [] timing.clocks
  let spans ← forEach (validateSpan clocks) [] timing.spans
  ExecutionGraph.checkEach timing.spans fun span =>
    if span.parent = "" then .ok () else do
      check (span.parent ≠ span.id && spans.contains span.parent)
        "ColdSnap operation timing span parent is invalid"
      check (acyclicFrom timing.spans (timing.spans.length + 1) [span.id] span.parent)
        "ColdSnap operation timing span tree contains a cycle"

structure OperationReceipt where
  format : Int64
  kind : String
  operationId : String
  operation : String
  state : String
  requestSHA256 : String
  engine : String
  snapshotDriver : String
  replaySemantics : String
  startedAt : String
  completedAt : String
  durationSeconds : Double
  timing : OperationTiming
  result : OperationResult
  error : String

/-- What receipts ask of package `time`. -/
class Times where
  Time : Type
  parse : String → Option Time
  format : Time → String
  before : Time → Time → Bool
  unixNano : Time → Int64
  seconds : Time → Time → Double

variable [Times]

def OperationReceipt.validateTimes (receipt : OperationReceipt) : Result Unit :=
  match Times.parse receipt.startedAt with
  | none => .error "ColdSnap operation receipt start time is invalid"
  | some started => do
    check ((Times.parse receipt.completedAt).any fun completed =>
        !Times.before completed started)
      "ColdSnap operation receipt completion time is invalid"
    check (finiteNonnegative receipt.durationSeconds)
      "ColdSnap operation receipt duration is invalid"

def OperationReceipt.validate (receipt : OperationReceipt) : Result Unit := do
  check (receipt.format = 2 && receipt.kind = "coldsnap-operation-receipt")
    "unsupported ColdSnap operation receipt"
  check (idPattern receipt.operationId) "ColdSnap operation receipt ID is invalid"
  check (operations.contains receipt.operation) "ColdSnap operation receipt operation is invalid"
  check (receipt.state = "succeeded" || receipt.state = "failed")
    "ColdSnap operation receipt state is invalid"
  check (digestPattern receipt.requestSHA256) "ColdSnap operation receipt request digest is invalid"
  check (receipt.engine = "vllm" || receipt.engine = "sglang")
    "ColdSnap operation receipt engine is invalid"
  check (lookupContract receipt.snapshotDriver).toOption.isSome
    "ColdSnap operation receipt snapshot driver is invalid"
  check (receipt.replaySemantics =
      Snapshot.replaySemantics receipt.operation receipt.result.prepared)
    "ColdSnap operation receipt replay semantics are invalid"
  receipt.validateTimes
  receipt.timing.validate
  check (!(receipt.state = "succeeded" && receipt.error ≠ ""))
    "successful ColdSnap operation receipt contains an error"
  check (!(receipt.state = "failed" && receipt.error = ""))
    "failed ColdSnap operation receipt has no error"

omit [Times] in
def OperationReceipt.sameRequest (receipt other : OperationReceipt) : Bool :=
  receipt.operationId = other.operationId && receipt.operation = other.operation &&
    receipt.requestSHA256 = other.requestSHA256

variable [PayloadText]

def controllerTiming (started completed : Times.Time) (failed : Bool) : OperationTiming where
  format := 1
  clocks := [⟨"controller", "controller", Times.unixNano started, "", ""⟩]
  spans := [{
    id := "controller-1"
    parent := ""
    name := "controller.operation"
    clock := "controller"
    startOffsetSeconds := zero
    durationSeconds := Times.seconds completed started
    status := if failed then "error" else "ok"
    attributes := .nil }]

def newOperationReceipt (request : Request) (prepareOnly : Bool) (started completed : Times.Time)
    (operationError : Option String) (timings : List OperationTiming) :
    Result OperationReceipt := do
  let digest ← requestSHA256 request
  let receipt : OperationReceipt := {
    format := 2
    kind := "coldsnap-operation-receipt"
    operationId := request.id
    operation := request.operation
    state := if operationError.isSome then "failed" else "succeeded"
    requestSHA256 := digest
    engine := request.launch.engine
    snapshotDriver := request.driver.id
    replaySemantics := replaySemantics request.operation prepareOnly
    startedAt := Times.format started
    completedAt := Times.format completed
    durationSeconds := Times.seconds completed started
    timing := timings.headD (controllerTiming started completed operationError.isSome)
    result := ⟨request.artifact, request.output, prepareOnly⟩
    error := operationError.getD "" }
  receipt.validate
  return receipt

end Coldsnap.Snapshot
