import Coldsnap.Foundation.Transitions
import Coldsnap.Snapshot.Confinement
import Coldsnap.Snapshot.Receipt

/-! # Publication of receipts

Several operations of `internal/cli/request.go` which leave their receipts at one path. Each
looks at the receipt there before it runs and before it writes its own, which then replaces
whatever is there.
-/

namespace Coldsnap.Snapshot

open Go Marshal Coldsnap.Topology Transitions

section Operations

variable [DoubleFormat]

/-- What is at the path of the receipt. -/
inductive Content where
  | absent
  | garbled
  | holds (receipt : OperationReceipt)

inductive Phase where
  | waiting
  | running
  | publishing (receipt : OperationReceipt)
  | replacing (receipt : OperationReceipt)
  | returned (error : Option String)

inductive Event (ι : Type) where
  | start (operation : ι)
  | finish (operation : ι)
  | inspect (operation : ι)
  | rename (operation : ι)
  | fail (operation : ι) (error : String)

structure State (ι : Type) where
  file : Content
  phase : ι → Phase

variable [Times] [PayloadText]

structure Operation where
  request : Request
  accepted : request.validate = .ok ()
  prepareOnly : Bool
  started : Times.Time
  completed : Times.Time
  error : Option String
  timing : OperationTiming

def Operation.receipt (operation : Operation) : Result OperationReceipt :=
  newOperationReceipt operation.request operation.prepareOnly operation.started
    operation.completed operation.error [operation.timing]

omit [PayloadText] in
def readReceipt (path : String) : Content → Result (Option OperationReceipt)
  | .absent => .ok none
  | .garbled => .error s!"read existing receipt {path}: decode ColdSnap operation receipt"
  | .holds receipt => do
    within s!"read existing receipt {path}: validate ColdSnap operation receipt" receipt.validate
    return some receipt

def validateReceiptDestination (path : String) (content : Content) (request : Request) :
    Result Unit := do
  let existing ← readReceipt path content
  match existing with
  | none => return ()
  | some receipt => do
    let digest ← within "digest ColdSnap request" (requestSHA256 request)
    check (receipt.operationId = request.id && receipt.operation = request.operation &&
        receipt.requestSHA256 = digest)
      s!"refusing to replace receipt {path} for a different request"

omit [PayloadText] in
def inspectReceipt (path : String) (content : Content) (receipt : OperationReceipt) :
    Result Bool := do
  let existing ← readReceipt path content
  match existing with
  | none => return true
  | some existing => do
    check (existing.sameRequest receipt)
      s!"refusing to replace receipt {path} for a different request"
    return existing.state ≠ "succeeded"

variable {ι : Type} [DecidableEq ι]

omit [Times] [PayloadText] in
def State.enter (state : State ι) (operation : ι) (phase : Phase) : State ι :=
  { state with phase := Function.update state.phase operation phase }

variable (state : State ι)

omit [Times] [PayloadText] in
@[simp] theorem State.enter_self (operation : ι) (phase : Phase) :
    (state.enter operation phase).phase operation = phase := by
  simp [State.enter]

variable {operation : ι}

omit [Times] [PayloadText] in
@[simp] theorem State.enter_other {other : ι} (different : other ≠ operation)
    (phase : Phase) : (state.enter operation phase).phase other = state.phase other := by
  simp [State.enter, different]

omit [Times] [PayloadText] in
theorem State.enter_enter (operation : ι) (first second : Phase) :
    (state.enter operation first).enter operation second = state.enter operation second := by
  simp [State.enter]

omit [Times] [PayloadText] in
def State.proceed {α : Type} (state : State ι) (operation : ι) (result : Result α)
    (phase : α → Phase) : State ι :=
  match result with
  | .ok value => state.enter operation (phase value)
  | .error message => state.enter operation (.returned (some message))

def step (path : String) (operations : ι → Operation) (state : State ι) :
    Event ι → Option (State ι)
  | .start operation =>
    match state.phase operation with
    | .waiting => some (state.proceed operation
        (validateReceiptDestination path state.file (operations operation).request)
        fun _ => .running)
    | _ => none
  | .finish operation =>
    match state.phase operation with
    | .running => some (state.proceed operation (operations operation).receipt .publishing)
    | _ => none
  | .inspect operation =>
    match state.phase operation with
    | .publishing receipt => some (state.proceed operation
        (inspectReceipt path state.file receipt)
        fun replaces => if replaces then .replacing receipt else .returned none)
    | _ => none
  | .rename operation =>
    match state.phase operation with
    | .replacing receipt =>
      some { state.enter operation (.returned none) with file := .holds receipt }
    | _ => none
  | .fail operation error => some (state.enter operation (.returned (some error)))

omit [Times] [PayloadText] [DecidableEq ι] in
def State.initial (content : Content) : State ι := ⟨content, fun _ => .waiting⟩

omit [Times] [PayloadText] [DecidableEq ι] in
/-- A publication replaces neither a receipt of a success nor that of another request. -/
def Keeps (state : State ι) : Event ι → Prop
  | .rename operation => ∀ existing receipt, state.file = .holds existing →
      state.phase operation = .replacing receipt →
      existing.state ≠ "succeeded" ∧ existing.sameRequest receipt = true
  | _ => True

/-! ## What operations write -/

/-- The operation would write this receipt over the given content. -/
structure Publishes (path : String) (content : Content) (operation : Operation)
    (receipt : OperationReceipt) : Prop where
  made : operation.receipt = .ok receipt
  replaces : inspectReceipt path content receipt = .ok true

variable {receipt : OperationReceipt}

theorem receipt_of_new {operation : Operation} (made : operation.receipt = .ok receipt) :
    receipt.validate = .ok () ∧ receipt.operationId = operation.request.id ∧
    receipt.operation = operation.request.operation ∧
    requestSHA256 operation.request = .ok receipt.requestSHA256 ∧
    receipt.state = if operation.error.isSome then "failed" else "succeeded" := by
  simp only [Operation.receipt, newOperationReceipt, bind_eq_ok, pure_eq_ok] at made
  rcases made with ⟨digest, digested, _, valid, rfl⟩
  exact ⟨valid, rfl, rfl, digested, rfl⟩

variable {path : String}

omit [PayloadText] in
theorem readReceipt_holds :
    readReceipt path (.holds receipt) = .ok (some receipt) ↔ receipt.validate = .ok () := by
  simp [readReceipt, Unique.exists_iff]

variable {content : Content}

omit [PayloadText] in
/-- A receipt replaces nothing but a receipt of a failure of the same request. -/
theorem inspectReceipt_eq_true :
    inspectReceipt path content receipt = .ok true ↔
      content = .absent ∨ ∃ existing, content = .holds existing ∧ existing.validate = .ok () ∧
        existing.sameRequest receipt = true ∧ existing.state ≠ "succeeded" := by
  cases content with
  | absent => simp [inspectReceipt, readReceipt]
  | garbled => simp [inspectReceipt, readReceipt]
  | holds existing =>
    simp [inspectReceipt, readReceipt, Unique.exists_iff]

omit [Times] [PayloadText] in
theorem sameRequest_iff {other : OperationReceipt} :
    receipt.sameRequest other = true ↔ receipt.operationId = other.operationId ∧
      receipt.operation = other.operation ∧ receipt.requestSHA256 = other.requestSHA256 := by
  simp [OperationReceipt.sameRequest, and_assoc]

omit [Times] [PayloadText] in
theorem sameRequest_trans {first second third : OperationReceipt}
    (same : first.sameRequest second = true) (next : second.sameRequest third = true) :
    first.sameRequest third = true := by
  rw [sameRequest_iff] at same next ⊢
  exact ⟨same.1.trans next.1, same.2.1.trans next.2.1, same.2.2.trans next.2.2⟩

/-- What would be written after the operation has run is not refused before. -/
theorem Publishes.starts {operation : Operation}
    (publishes : Publishes path content operation receipt) :
    validateReceiptDestination path content operation.request = .ok () := by
  rcases inspectReceipt_eq_true.mp publishes.replaces with rfl | ⟨existing, rfl, valid, same, _⟩
  · rfl
  · rcases receipt_of_new publishes.made with ⟨_, id, kind, digest, _⟩
    rw [sameRequest_iff, id, kind] at same
    simp [validateReceiptDestination, readReceipt_holds.mpr valid, digest, same]

variable {initial : Content} {existing : OperationReceipt}

/-- An operation which would write over a receipt that was written over the initial content would
have written over the initial content as well. -/
theorem Publishes.initially {first second : Operation}
    (earlier : Publishes path initial first existing)
    (later : Publishes path (.holds existing) second receipt) :
    Publishes path initial second receipt := by
  refine ⟨later.made, ?_⟩
  rcases inspectReceipt_eq_true.mp later.replaces with never | ⟨_, found, _, same, _⟩
  · cases never
  · cases found
    rw [inspectReceipt_eq_true]
    rcases inspectReceipt_eq_true.mp earlier.replaces with absent | ⟨older, held, valid, kin, open_⟩
    · exact .inl absent
    · exact .inr ⟨older, held, valid, sameRequest_trans kin same, open_⟩

theorem Publishes.state_eq {operation : Operation}
    (publishes : Publishes path content operation receipt) :
    receipt.state ≠ "succeeded" ↔ operation.error.isSome = true := by
  rw [(receipt_of_new publishes.made).2.2.2.2]
  cases operation.error with
  | none => decide
  | some text =>
    have different : "failed" ≠ "succeeded" := by decide
    simp [different]

/-! ## Runs -/

/-- What holds whatever the operations do: the file is the initial one or a receipt which an
operation was free to write over that, and such an operation has returned. -/
structure Consistent (path : String) (operations : ι → Operation) (initial : Content)
    (state : State ι) : Prop where
  file : state.file = initial ∨ ∃ operation receipt error, state.file = .holds receipt ∧
    Publishes path initial (operations operation) receipt ∧
    state.phase operation = .returned error
  publishing : ∀ {operation receipt}, state.phase operation = .publishing receipt →
    (operations operation).receipt = .ok receipt
  replacing : ∀ {operation receipt}, state.phase operation = .replacing receipt →
    Publishes path initial (operations operation) receipt

omit [DecidableEq ι] in
theorem Consistent.start (path : String) (operations : ι → Operation) (initial : Content) :
    Consistent path operations initial (State.initial initial) where
  file := .inl rfl
  publishing := nofun
  replacing := nofun

variable {operations : ι → Operation} {state : State ι}

section

variable (consistent : Consistent path operations initial state)

include consistent

theorem Consistent.enter {phase : Phase}
    (returns : (∃ error, phase = .returned error) ∨
      ∀ error, state.phase operation ≠ .returned error)
    (publishing : ∀ receipt, phase = .publishing receipt →
      (operations operation).receipt = .ok receipt)
    (replacing : ∀ receipt, phase = .replacing receipt →
      Publishes path initial (operations operation) receipt) :
    Consistent path operations initial (state.enter operation phase) := by
  constructor
  · rcases consistent.file with unchanged | ⟨author, receipt, error, held, publishes, done⟩
    · exact .inl unchanged
    · right
      by_cases same : author = operation
      · subst same
        rcases returns with ⟨other, rfl⟩ | pending
        · exact ⟨author, receipt, other, held, publishes, state.enter_self _ _⟩
        · exact absurd done (pending error)
      · exact ⟨author, receipt, error, held, publishes, (state.enter_other same phase).trans done⟩
  · intro other receipt found
    by_cases same : other = operation
    · subst same
      exact publishing receipt ((state.enter_self _ _).symm.trans found)
    · exact consistent.publishing ((state.enter_other same phase).symm.trans found)
  · intro other receipt found
    by_cases same : other = operation
    · subst same
      exact replacing receipt ((state.enter_self _ _).symm.trans found)
    · exact consistent.replacing ((state.enter_other same phase).symm.trans found)

theorem Consistent.returns (operation : ι) (error : Option String) :
    Consistent path operations initial (state.enter operation (.returned error)) :=
  consistent.enter (.inl ⟨error, rfl⟩) nofun nofun

theorem Consistent.proceed {α : Type} {result : Result α} {phase : α → Phase}
    (pending : ∀ error, state.phase operation ≠ .returned error)
    (publishing : ∀ value receipt, result = .ok value → phase value = .publishing receipt →
      (operations operation).receipt = .ok receipt)
    (replacing : ∀ value receipt, result = .ok value → phase value = .replacing receipt →
      Publishes path initial (operations operation) receipt) :
    Consistent path operations initial (state.proceed operation result phase) := by
  cases result with
  | error message => exact consistent.returns operation (some message)
  | ok value =>
    exact consistent.enter (.inr pending) (fun receipt => publishing value receipt rfl)
      fun receipt => replacing value receipt rfl

omit [DecidableEq ι] in
/-- What an operation writes over the file, it could have written over the initial content. -/
theorem Consistent.publishes
    (publishes : Publishes path state.file (operations operation) receipt) :
    Publishes path initial (operations operation) receipt := by
  rcases consistent.file with unchanged | ⟨author, existing, _, held, earlier, _⟩
  · rwa [unchanged] at publishes
  · rw [held] at publishes
    exact earlier.initially publishes

theorem Consistent.step {next : State ι} {event : Event ι}
    (occurs : step path operations state event = some next) :
    Consistent path operations initial next := by
  cases event <;> simp only [Snapshot.step] at occurs
  case start operation =>
    split at occurs
    · rename_i waits
      cases occurs
      apply consistent.proceed
      · rw [waits]
        exact nofun
      · exact nofun
      · exact nofun
    · cases occurs
  case finish operation =>
    split at occurs
    · rename_i runs
      cases occurs
      apply consistent.proceed
      · rw [runs]
        exact nofun
      · intro value receipt made same
        cases same
        exact made
      · exact nofun
    · cases occurs
  case inspect operation =>
    split at occurs
    · rename_i receipt publishes
      cases occurs
      apply consistent.proceed
      · rw [publishes]
        exact nofun
      · intro value other inspected same
        cases value <;> cases same
      · intro value other inspected same
        cases value with
        | false => cases same
        | true =>
          cases same
          exact consistent.publishes ⟨consistent.publishing publishes, inspected⟩
    · cases occurs
  case rename operation =>
    split at occurs
    · rename_i receipt replaces
      cases occurs
      have later := consistent.returns operation none
      refine ⟨.inr ⟨operation, receipt, none, rfl, consistent.replacing replaces, ?_⟩,
        later.publishing, later.replacing⟩
      exact state.enter_self _ _
    · cases occurs
  case fail operation error =>
    cases occurs
    exact consistent.returns operation (some error)

/-- Any two operations which may both write belong to the same request and fail. -/
def Compatible (path : String) (operations : ι → Operation) (initial : Content) : Prop :=
  ∀ first second existing receipt, first ≠ second →
    Publishes path initial (operations first) existing →
    Publishes path initial (operations second) receipt →
    existing.sameRequest receipt = true ∧ (operations first).error.isSome = true ∧
      (operations second).error.isSome = true

theorem Consistent.keeps {next : State ι} {event : Event ι}
    (compatible : Compatible path operations initial)
    (occurs : Snapshot.step path operations state event = some next) : Keeps state event := by
  cases event with
  | rename operation =>
    intro existing receipt held replaces
    have publishes := consistent.replacing replaces
    rcases consistent.file with unchanged | ⟨author, other, error, found, earlier, done⟩
    · rw [held] at unchanged
      rcases inspectReceipt_eq_true.mp publishes.replaces with absent | ⟨_, same, _, kin, failed⟩
      · rw [absent] at unchanged
        cases unchanged
      · rw [← unchanged] at same
        cases same
        exact ⟨failed, kin⟩
    · rw [held] at found
      cases found
      have different : author ≠ operation := by
        rintro rfl
        rw [done] at replaces
        cases replaces
      rcases compatible author operation existing receipt different earlier publishes with
        ⟨kin, failed, _⟩
      exact ⟨earlier.state_eq.mpr failed, kin⟩
  | start operation => trivial
  | finish operation => trivial
  | inspect operation => trivial
  | fail operation error => trivial

end

theorem run_up_to_rename (waits : state.phase operation = .waiting)
    (publishes : Publishes path state.file (operations operation) receipt) :
    run (step path operations) state [.start operation, .finish operation, .inspect operation] =
      some (state.enter operation (.replacing receipt)) := by
  have started : step path operations state (.start operation) =
      some (state.enter operation .running) := by
    simp [step, waits, publishes.starts, State.proceed]
  have finished : step path operations (state.enter operation .running) (.finish operation) =
      some (state.enter operation (.publishing receipt)) := by
    simp [step, publishes.made, State.proceed, State.enter_enter]
  have inspected : step path operations (state.enter operation (.publishing receipt))
      (.inspect operation) = some (state.enter operation (.replacing receipt)) := by
    have same : (state.enter operation (.publishing receipt)).file = state.file := rfl
    simp [step, same, publishes.replaces, State.proceed, State.enter_enter]
  simp [run, started, finished, inspected]

/-- Two operations inspect the file, then both rename. -/
theorem kept_of_both {first second : ι} (different : first ≠ second)
    (each : ∀ events, Each (step path operations) Keeps (State.initial initial) events)
    (earlier : Publishes path initial (operations first) existing)
    (later : Publishes path initial (operations second) receipt) :
    existing.state ≠ "succeeded" ∧ existing.sameRequest receipt = true := by
  let start : State ι := .initial initial
  let middle := start.enter first (.replacing existing)
  let both := middle.enter second (.replacing receipt)
  have begun : run (step path operations) start
      [.start first, .finish first, .inspect first] = some middle :=
    run_up_to_rename rfl earlier
  have joined : run (step path operations) middle
      [.start second, .finish second, .inspect second] = some both :=
    run_up_to_rename (start.enter_other different.symm _) later
  have renamed : step path operations both (.rename first) =
      some { both.enter first (.returned none) with file := .holds existing } := by
    have replaces : both.phase first = .replacing existing :=
      (middle.enter_other different _).trans (start.enter_self _ _)
    simp [step, replaces]
  have race := ((each ([.start first, .finish first, .inspect first] ++
    ([.start second, .finish second, .inspect second] ++ [.rename first, .rename second]))).after
      begun).after joined
  have last := (race _ renamed).2
  have replaces : (both.enter first (.returned none)).phase second = .replacing receipt :=
    (both.enter_other different.symm _).trans (middle.enter_self _ _)
  have overwritten : ∃ next, step path operations
      { both.enter first (.returned none) with file := .holds existing } (.rename second) =
        some next := by
    simp [step, replaces]
  rcases overwritten with ⟨next, occurs⟩
  exact (last next occurs).1 existing receipt rfl replaces

/-- Publications keep the receipts of successes and of other requests in every interleaving if
and only if any two operations which may write over the initial content belong to the same request
and both fail. -/
theorem publications_kept_iff (path : String) (operations : ι → Operation) (initial : Content) :
    (∀ events, Each (step path operations) Keeps (State.initial initial) events) ↔
      Compatible path operations initial := by
  constructor
  · intro each first second existing receipt different earlier later
    have kept := kept_of_both different each earlier later
    have swapped := kept_of_both different.symm each later earlier
    exact ⟨kept.2, earlier.state_eq.mp kept.1, later.state_eq.mp swapped.1⟩
  · intro compatible events
    have kept : ∀ {state event next}, Consistent path operations initial state →
        step path operations state event = some next →
        Consistent path operations initial next := fun consistent => consistent.step
    apply Each.of_invariant kept
    · exact fun consistent => consistent.keeps compatible
    · exact .start path operations initial

omit [Times] [PayloadText] in
def Content.outcome : Content → Option (String × String)
  | .holds receipt => some (receipt.operationId, receipt.state)
  | _ => none

end Operations

section Sample

local instance raceDoubles : DoubleFormat := .decimal
local instance raceTexts : PayloadText := .empty

/-- A clock which stands still. -/
local instance raceTimes : Times where
  Time := Unit
  parse text := if text = "2026-01-01T00:00:00Z" then some () else none
  format _ := "2026-01-01T00:00:00Z"
  before _ _ := false
  unixNano _ := 1767225600000000000
  seconds _ _ := DoubleFormat.zero

theorem restoreRequest_valid : (namedRequest "worker-0.pack").validate = .ok () :=
  namedRequest_valid (by decide +kernel)

def repeated (second : Bool) : Operation where
  request := namedRequest "worker-0.pack"
  accepted := restoreRequest_valid
  prepareOnly := false
  started := ()
  completed := ()
  error := if second then some "restore failed" else none
  timing := controllerTiming () () second

def race : List (Event Bool) :=
  [.start false, .start true, .finish false, .finish true, .inspect false, .inspect true,
    .rename false]

/-- The receipt of a success is replaced by that of a failure. -/
theorem success_overwritten :
    (run (step "/receipts/restore.json" repeated) (.initial .absent) race).map (·.file.outcome) =
      some (some ("restore-0", "succeeded")) ∧
    (run (step "/receipts/restore.json" repeated) (.initial .absent)
        (race ++ [.rename true])).map (·.file.outcome) =
      some (some ("restore-0", "failed")) := by
  decide +kernel

end Sample

end Coldsnap.Snapshot
