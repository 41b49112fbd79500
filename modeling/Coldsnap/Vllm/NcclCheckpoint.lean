import Coldsnap.Foundation.Python
import Coldsnap.Foundation.Transitions

/-! # Checkpoints of the communicators

`prepare` and `restore` of `NcclCheckpointRuntime` hold its lock, so they follow one another. The
provider is prepared by the first step of `prepare`, the runtime by the last one.
-/

namespace Coldsnap.Vllm.NcclCheckpoint

open Python Checked Transitions List

/-- The operations which prepare and restore the provider. -/
inductive Operation where
  | prepare
  | communicatorSuspend
  | restore
  | transportReattach
  | communicatorResume
deriving DecidableEq

def Operation.title : Operation → String
  | .prepare => "ncclCheckpointPrepare"
  | .communicatorSuspend => "ncclCommSuspend/in-place"
  | .restore => "ncclCheckpointRestore"
  | .transportReattach => "NCCL in-place transport reattach"
  | .communicatorResume => "ncclCommResume/in-place"

structure Call where
  operation : Operation
  result : Int
deriving DecidableEq

/-- The newest call is the first one. -/
structure Runtime where
  prepared : Bool
  restoreAttempted : Bool
  calls : List Call

def Runtime.initial : Runtime := ⟨false, false, []⟩

structure IbStatus where
  pdRefs : Int
  mrCount : Int

def IbStatus.quiescent (status : IbStatus) : Bool := status.pdRefs = 0 && status.mrCount = 0

/-- What `prepare` or `restore` finds: the results of the operations, the check of the evidence,
and the readings of `ib_status`. Those of the wait end at its deadline. -/
structure Answers where
  result : Operation → Int
  transportDetach : Int
  networkReset : Option Int
  evidence : String → Checked Unit
  afterPrepare : Checked (Option IbStatus)
  initial : Checked (Option IbStatus)
  timeout : Checked Rat
  polls : List (Checked (Option IbStatus))
  afterReset : Checked (Option IbStatus)

def poll : List (Checked (Option IbStatus)) → Checked Unit
  | [] => .error (runtimeError "NCCL IB resources did not quiesce after communicator prepare")
  | reading :: readings => do
    if (← reading).any IbStatus.quiescent then return () else poll readings

section Calls

variable (inPlace : Bool) (answers : Answers)

def waitIbQuiescent : Checked Unit := do
  if (← answers.initial).all IbStatus.quiescent then return ()
  else
    let timeout ← answers.timeout
    require (0 < timeout && timeout ≤ 600)
      (runtimeError "COLDSNAP_NCCL_IB_QUIESCE_TIMEOUT_S must be in (0, 600]")
    poll answers.polls

def check (result : Int) (operation : String) : Checked Unit :=
  require (result = 0) (runtimeError s!"{operation} failed with ncclResult_t={result}")

/-- One operation after another, up to the first which fails. -/
def callEach : List Operation → Runtime → Runtime × Checked Unit
  | [], runtime => (runtime, .ok ())
  | operation :: operations, runtime =>
    let result := answers.result operation
    let called := { runtime with calls := ⟨operation, result⟩ :: runtime.calls }
    match check result operation.title with
    | .ok () => callEach operations called
    | .error error => (called, .error error)

/-- The operations, what else has to succeed, and what is set at the end. -/
def attempt (operations : List Operation) (checks : Checked Unit) (finish : Runtime → Runtime)
    (runtime : Runtime) : Runtime × Checked Unit :=
  match callEach answers operations runtime, checks with
  | (reached, .ok ()), .ok () => (finish reached, .ok ())
  | (reached, .ok ()), .error error => (reached, .error error)
  | failed, _ => failed

/-- What follows the suspension of the communicators. -/
def detach : Checked Unit := do
  check answers.transportDetach "NCCL in-place transport detach"
  answers.evidence "transport-detached"

/-- What follows the preparation of the provider. -/
def quiesce : Checked Unit := do
  let _ ← answers.afterPrepare
  waitIbQuiescent answers
  check (answers.networkReset.getD 0) "ncclCheckpointNetworkReset"

def prepare (runtime : Runtime) : Runtime × Checked Unit :=
  let finish := fun reached => { reached with prepared := true, restoreAttempted := false }
  if runtime.prepared then (runtime, .error (runtimeError "NCCL checkpoint is already prepared"))
  else if inPlace then
    attempt answers [.communicatorSuspend] (detach answers) finish runtime
  else
    let (reached, result) := attempt answers [.prepare] (quiesce answers) finish runtime
    -- The last status is only read for the report.
    (reached, result.bind fun _ => answers.afterReset.map fun _ => ())

def restore (runtime : Runtime) : Runtime × Checked Unit :=
  let finish := fun reached => { reached with prepared := false }
  let attempted := { runtime with restoreAttempted := true }
  if !runtime.prepared then (runtime, .error (runtimeError "NCCL checkpoint was not prepared"))
  else if runtime.restoreAttempted then
    (runtime, .error (runtimeError "NCCL checkpoint restore is terminal after its first attempt"))
  else if inPlace then
    attempt answers [.transportReattach, .communicatorResume] (answers.evidence "active") finish
      attempted
  else attempt answers [.restore] (.ok ()) finish attempted

end Calls

inductive Event where
  | prepare (answers : Answers)
  | restore (answers : Answers)

def step (inPlace : Bool) (runtime : Runtime) : Event → Option Runtime
  | .prepare answers => some (prepare inPlace answers runtime).1
  | .restore answers => some (restore inPlace answers runtime).1

/-! ## The order of the calls -/

def Operation.prepares : Operation → Bool
  | .prepare | .communicatorSuspend => true
  | _ => false

/-- The provider has been prepared, and not been restored or resumed since. -/
def outstanding : List Call → Bool
  | [] => false
  | call :: older =>
    if call.result = 0 && call.operation.prepares then true
    else if call.result = 0 && call.operation ≠ .transportReattach then false
    else outstanding older

/-- The provider has been prepared, and the operation not been called since. -/
def unused (operation : Operation) : List Call → Bool
  | [] => false
  | call :: older =>
    if call.result = 0 && call.operation.prepares then true
    else call.operation ≠ operation && unused operation older

def Disciplined : List Call → Prop
  | [] => True
  | call :: older =>
    (if call.operation.prepares then outstanding older = false
      else unused call.operation older = true) ∧ Disciplined older

/-- The provider is prepared, and a later step of `prepare` fails. -/
def Halfway (inPlace : Bool) (answers : Answers) : Prop :=
  if inPlace then answers.result .communicatorSuspend = 0 ∧ detach answers ≠ .ok ()
  else answers.result .prepare = 0 ∧ quiesce answers ≠ .ok ()

/-- No `prepare` follows one which was not refused and failed after its call of the provider. -/
def Unrepeated (inPlace : Bool) : Runtime → List Event → Prop
  | _, [] => True
  | runtime, .restore answers :: later =>
    Unrepeated inPlace (restore inPlace answers runtime).1 later
  | runtime, .prepare answers :: later =>
    (runtime.prepared = false → Halfway inPlace answers → ∀ again, .prepare again ∉ later) ∧
      Unrepeated inPlace (prepare inPlace answers runtime).1 later

/-- A `restore` which reaches the provider finds it prepared. -/
def Ready (runtime : Runtime) : Prop :=
  runtime.prepared = true → runtime.restoreAttempted = false →
    ∀ operation, operation.prepares = false → unused operation runtime.calls = true

/-- The runtime and the provider agree. -/
structure Settled (runtime : Runtime) : Prop where
  ready : Ready runtime
  disciplined : Disciplined runtime.calls
  restored : runtime.prepared = false → outstanding runtime.calls = false

/-- Only the provider is prepared. -/
structure Stuck (runtime : Runtime) : Prop where
  disciplined : Disciplined runtime.calls
  unprepared : runtime.prepared = false
  outstanding : outstanding runtime.calls = true

variable {inPlace : Bool} {answers : Answers} {runtime next : Runtime} {events : List Event}

theorem attempt_one (operation : Operation) (checks : Checked Unit) (finish : Runtime → Runtime) :
    let called := { runtime with
      calls := ⟨operation, answers.result operation⟩ :: runtime.calls }
    answers.result operation = 0 ∧ checks = .ok () ∧
        (attempt answers [operation] checks finish runtime).1 = finish called ∨
      ¬(answers.result operation = 0 ∧ checks = .ok ()) ∧
        (attempt answers [operation] checks finish runtime).1 = called := by
  by_cases good : answers.result operation = 0
  · cases checks <;> simp [attempt, callEach, check, good, require]
  · simp [attempt, callEach, check, good, require]

/-- A `prepare` calls the one operation which prepares the provider. -/
theorem prepare_calls (free : runtime.prepared = false) :
    ∃ operation, operation.prepares = true ∧
      (answers.result operation = 0 ∧ ¬Halfway inPlace answers ∧
        (prepare inPlace answers runtime).1 = ⟨true, false, ⟨operation, 0⟩ :: runtime.calls⟩ ∨
      (answers.result operation = 0 ↔ Halfway inPlace answers) ∧
        (prepare inPlace answers runtime).1 = { runtime with
          calls := ⟨operation, answers.result operation⟩ :: runtime.calls }) := by
  have open_ : ¬runtime.prepared = true := by simp [free]
  cases inPlace with
  | true =>
    refine ⟨.communicatorSuspend, rfl, ?_⟩
    rw [prepare, if_neg open_, if_pos rfl, Halfway, if_pos rfl]
    rcases attempt_one .communicatorSuspend (detach answers) _ with
      ⟨good, passed, kept⟩ | ⟨failed, kept⟩
    · exact .inl ⟨good, fun half => half.2 passed, by rw [kept, good]⟩
    · exact .inr ⟨by grind, kept⟩
  | false =>
    refine ⟨.prepare, rfl, ?_⟩
    rw [prepare, if_neg open_, if_neg Bool.false_ne_true, Halfway, if_neg Bool.false_ne_true]
    rcases attempt_one .prepare (quiesce answers) _ with ⟨good, passed, kept⟩ | ⟨failed, kept⟩
    · exact .inl ⟨good, fun half => half.2 passed, by rw [kept, good]⟩
    · exact .inr ⟨by grind, kept⟩

theorem settled_prepare (settled : Settled runtime) (free : runtime.prepared = false) :
    Settled (prepare inPlace answers runtime).1 ∧ ¬Halfway inPlace answers ∨
      Stuck (prepare inPlace answers runtime).1 ∧ Halfway inPlace answers := by
  have restored := settled.restored free
  rcases @prepare_calls inPlace answers runtime free with
    ⟨operation, prepares, ⟨good, whole, kept⟩ | ⟨half, kept⟩⟩
  · rw [kept]
    exact .inl ⟨⟨fun _ _ _ _ => by simp [unused, prepares],
      ⟨by simpa [prepares] using restored, settled.disciplined⟩, nofun⟩, whole⟩
  · rw [kept]
    have disciplined : Disciplined (⟨operation, answers.result operation⟩ :: runtime.calls) :=
      ⟨by simpa [prepares] using restored, settled.disciplined⟩
    by_cases good : answers.result operation = 0
    · exact .inr ⟨⟨disciplined, free, by simp [outstanding, good, prepares]⟩, half.mp good⟩
    · refine .inl ⟨⟨fun prepared => ?_, disciplined, fun _ => ?_⟩, good ∘ half.mpr⟩
      · exact absurd (free.symm.trans prepared) nofun
      · simpa [outstanding, good] using restored

/-- A `restore` calls its operations once, in their order. -/
theorem settled_restore (settled : Settled runtime) :
    Settled (restore inPlace answers runtime).1 := by
  simp only [restore]
  split
  · exact settled
  split
  · exact settled
  next prepared fresh =>
  have prepared : runtime.prepared = true := by simpa using prepared
  have free := settled.ready prepared (by simpa using fresh)
  have disciplined := settled.disciplined
  split
  · have reattach := free .transportReattach rfl
    have resume := free .communicatorResume rfl
    by_cases reattached : answers.result .transportReattach = 0
    · by_cases resumed : answers.result .communicatorResume = 0
      · cases answers.evidence "active" <;> constructor <;>
          simp [attempt, callEach, check, require, Ready, Disciplined, unused, outstanding,
            Operation.prepares, *]
      · constructor <;>
          simp [attempt, callEach, check, require, Ready, Disciplined, unused,
            Operation.prepares, *]
    · constructor <;>
        simp [attempt, callEach, check, require, Ready, Disciplined, Operation.prepares, *]
  · have restore := free .restore rfl
    rcases attempt_one .restore (.ok ()) _ with ⟨good, _, kept⟩ | ⟨_, kept⟩
    · rw [kept]
      constructor <;> simp [Ready, Disciplined, outstanding, Operation.prepares, *]
    · rw [kept]
      constructor <;> simp [Ready, Disciplined, Operation.prepares, *]

theorem unrepeated_of_notMem : ∀ {runtime : Runtime}, (∀ again, .prepare again ∉ events) →
    Unrepeated inPlace runtime events := by
  induction events with
  | nil => exact fun _ => trivial
  | cons event events induction =>
    intro runtime none
    cases event with
    | prepare answers => exact absurd mem_cons_self (none answers)
    | restore answers => exact induction fun again later => none again (mem_cons_of_mem _ later)

/-- A runtime which does not know that the provider is prepared prepares it again. -/
theorem stuck_iff (stuck : Stuck runtime) :
    Throughout (step inPlace) (fun runtime => Disciplined runtime.calls) runtime events ↔
      ∀ again, .prepare again ∉ events := by
  induction events with
  | nil => exact iff_of_true stuck.disciplined (by simp)
  | cons event events induction =>
    cases event with
    | prepare answers =>
      refine iff_of_false (fun throughout => ?_) fun none => none answers mem_cons_self
      have after := (throughout.2 _ rfl).start
      rcases @prepare_calls inPlace answers runtime stuck.unprepared with
        ⟨operation, prepares, ⟨_, _, kept⟩ | ⟨_, kept⟩⟩ <;>
      · simp only [kept, Disciplined, prepares, if_true, stuck.outstanding] at after
        cases after.1
    | restore answers =>
      have refused : step inPlace runtime (.restore answers) = some runtime := by
        simp [step, restore, stuck.unprepared]
      simp [Throughout, refused, induction, stuck.disciplined]

theorem disciplined_of_settled :
    ∀ {runtime : Runtime}, Settled runtime →
      (Throughout (step inPlace) (fun runtime => Disciplined runtime.calls) runtime events ↔
        Unrepeated inPlace runtime events) := by
  induction events with
  | nil => exact fun settled => iff_of_true settled.disciplined trivial
  | cons event events induction =>
    intro runtime settled
    cases event with
    | restore answers =>
      have later := induction (@settled_restore inPlace answers runtime settled)
      simp [Throughout, Unrepeated, step, later, settled.disciplined]
    | prepare answers =>
      cases free : runtime.prepared with
      | true =>
        have later := induction settled
        simp [Throughout, Unrepeated, step, prepare, free, later, settled.disciplined]
      | false =>
        rcases @settled_prepare inPlace answers runtime settled free with
          ⟨after, whole⟩ | ⟨after, half⟩
        · have later := induction after
          simp [Throughout, Unrepeated, step, later, settled.disciplined, whole]
        · have later := @stuck_iff inPlace _ events after
          simp only [Throughout, Unrepeated, step, Option.some.injEq, forall_eq', later,
            settled.disciplined, true_and, free, half, forall_true_left]
          exact ⟨fun none => ⟨none, unrepeated_of_notMem none⟩, And.left⟩

/-- The provider is never prepared while it is, and each operation restores it once at most,
exactly if no `prepare` follows one which failed after it had prepared the provider. -/
theorem disciplined_iff (inPlace : Bool) (events : List Event) :
    Throughout (step inPlace) (fun runtime => Disciplined runtime.calls) .initial events ↔
      Unrepeated inPlace .initial events :=
  disciplined_of_settled ⟨nofun, trivial, fun _ => rfl⟩

def detachFails : Answers where
  result _ := 0
  transportDetach := 1
  networkReset := none
  evidence _ := .ok ()
  afterPrepare := .ok none
  initial := .ok none
  timeout := .ok 30
  polls := []
  afterReset := .ok none

/-- After a `prepare` which could not detach the transport, the next one suspends the communicators
again. -/
theorem communicators_suspended_twice :
    (run (step true) .initial [.prepare detachFails, .prepare detachFails]).map Runtime.calls =
      some [⟨.communicatorSuspend, 0⟩, ⟨.communicatorSuspend, 0⟩] ∧
    ¬Disciplined [⟨.communicatorSuspend, 0⟩, ⟨.communicatorSuspend, 0⟩] :=
  ⟨rfl, by simp [Disciplined, outstanding, Operation.prepares]⟩

end Coldsnap.Vllm.NcclCheckpoint
