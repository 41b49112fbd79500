import Coldsnap.Coordinator.Protocol
import Coldsnap.Foundation.Linearization

/-! # The coordinator server

The store of `internal/coord/server.go` and the goroutines which serve its
connections. Everything between `Lock` and `Unlock` is one event; the change
channel is a number which counts how often it was replaced, so a waiter's channel
is closed as soon as the number has moved on.
-/

namespace Coldsnap.Coordinator

structure Config where
  token : Bytes
  maxKey : Nat
  maxValue : Nat
  maxWait : Nat
deriving DecidableEq, Repr

abbrev Store := Bytes → Option Bytes

def Store.empty : Store := fun _ => none

/-! ## Critical sections -/

/-- What the code between `Lock` and `Unlock` does. Without a response a blocking
get goes on waiting. -/
structure Effect where
  response : Option Response
  store : Store
  signals : Bool

def Effect.answer (store : Store) (status : Status) (value : Bytes) : Effect :=
  ⟨some ⟨status, value⟩, store, false⟩

def Effect.change (store : Store) (key : Bytes) (value : Option Bytes) (answer : Bytes) : Effect :=
  ⟨some ⟨.ok, answer⟩, Function.update store key value, true⟩

def Store.current (store : Store) (key : Bytes) : Option Int :=
  match store key with
  | some value => parseInt value
  | none => some 0

def addOverflows (current delta : Int) : Bool :=
  (0 < delta && maxInt64 - delta < current) || (delta < 0 && current < minInt64 - delta)

def executeAdd (store : Store) (request : Request) : Effect :=
  match parseInt request.value with
  | none => .answer store .invalid (ascii "add value must be an integer")
  | some delta =>
    match store.current request.key with
    | none => .answer store .invalid (ascii "stored value is not an integer")
    | some current =>
      if addOverflows current delta then
        .answer store .invalid (ascii "add result overflows int64")
      else .change store request.key (some (formatInt (current + delta)))
        (formatInt (current + delta))

def execute (maxValue : Nat) (store : Store) (request : Request) : Effect :=
  match request.operation with
  | .health => .answer store .ok []
  | .other _ => .answer store .invalid (ascii "unsupported operation")
  | operation =>
    if request.key = [] then .answer store .invalid (ascii "key is required")
    else match operation with
      | .set => .change store request.key (some request.value) []
      | .delete => .change store request.key none []
      | .add => executeAdd store request
      | .append =>
        let stored := (store request.key).getD []
        if stored.length + request.value.length > maxValue then
          .answer store .tooLarge (ascii "appended value exceeds coordinator limit")
        else .change store request.key (some (stored ++ request.value)) []
      | _ =>
        match store request.key with
        | some value => .answer store .ok value
        | none => if request.timeout = 0 then .answer store .notFound [] else ⟨none, store, false⟩

inductive Executed (maxValue : Nat) (store : Store) (request : Request) : Effect → Prop where
  | refused {status value} (failed : status ≠ .ok) :
      Executed maxValue store request (.answer store status value)
  | healthy (asked : request.operation = .health) :
      Executed maxValue store request (.answer store .ok [])
  | found {value} (asked : request.operation = .get) (present : store request.key = some value) :
      Executed maxValue store request (.answer store .ok value)
  | absent (asked : request.operation = .get) (named : request.key ≠ [])
      (blocks : request.timeout ≠ 0) (missing : store request.key = none) :
      Executed maxValue store request ⟨none, store, false⟩
  | set (asked : request.operation = .set) :
      Executed maxValue store request (.change store request.key (some request.value) [])
  | delete (asked : request.operation = .delete) :
      Executed maxValue store request (.change store request.key none [])
  | add {delta current} (asked : request.operation = .add)
      (parsed : parseInt request.value = some delta)
      (stored : store.current request.key = some current)
      (fits : addOverflows current delta = false) :
      Executed maxValue store request (.change store request.key
        (some (formatInt (current + delta))) (formatInt (current + delta)))
  | append (asked : request.operation = .append)
      (fits : ((store request.key).getD []).length + request.value.length ≤ maxValue) :
      Executed maxValue store request (.change store request.key
        (some ((store request.key).getD [] ++ request.value)) [])

theorem executedAdd (maxValue : Nat) (store : Store) (request : Request)
    (asked : request.operation = .add) :
    Executed maxValue store request (executeAdd store request) := by
  unfold executeAdd
  cases parsed : parseInt request.value with
  | none => exact .refused (by decide)
  | some delta =>
    cases stored : store.current request.key with
    | none => exact .refused (by decide)
    | some current =>
      simp only
      split
      · exact .refused (by decide)
      · rename_i fits
        exact .add asked parsed stored (Bool.eq_false_iff.mpr fits)

theorem executed (maxValue : Nat) (store : Store) (request : Request) :
    Executed maxValue store request (execute maxValue store request) := by
  unfold execute
  by_cases unnamed : request.key = []
  · cases asked : request.operation <;> simp only [unnamed, if_true]
    case health => exact .healthy asked
    all_goals exact .refused (by decide)
  cases asked : request.operation <;> simp only [unnamed, if_false]
  case health => exact .healthy asked
  case other => exact .refused (by decide)
  case set => exact .set asked
  case delete => exact .delete asked
  case add => exact executedAdd maxValue store request asked
  case append =>
    split
    · exact .refused (by decide)
    · exact .append asked (by omega)
  case get =>
    cases present : store request.key with
    | some value => exact .found asked present
    | none =>
      by_cases blocks : request.timeout = 0
      · rw [if_pos blocks]
        exact .refused (by decide)
      · rw [if_neg blocks]
        exact .absent asked unnamed blocks present

/-! ## Connections -/

def admission (config : Config) (arrived : Bytes) (ending : String) : Except Response Request :=
  match readRequest config.maxKey config.maxValue arrived ending with
  | .error error =>
    .error ⟨if error = .tooLarge then .tooLarge else .invalid, ascii error.text⟩
  | .ok request =>
    if request.token ≠ config.token then .error ⟨.unauthorized, ascii "invalid token"⟩
    else if 0 < config.maxWait ∧ config.maxWait < request.timeout * 1000000 then
      .error ⟨.invalid, ascii "wait exceeds coordinator limit"⟩
    else .ok request

/-- An admitted request. `expired` says that its deadline passed before the
coordinator was stopped. -/
structure Call where
  number : Nat
  request : Request
  expired : Bool
deriving DecidableEq, Repr

/-- Where the goroutine of a connection stands: about to lock the mutex, in the
`select` with the channel it captured, or about to write its response. -/
inductive Phase where
  | idle
  | ready (call : Call)
  | parked (call : Call) (channel : Nat)
  | answered (number : Option Nat) (response : Response)
deriving DecidableEq, Repr

def Phase.number : Phase → Option Nat
  | .idle => none
  | .ready call => some call.number
  | .parked call _ => some call.number
  | .answered number _ => number

abbrev Section := Linearization.Step Request (Option Response)
abbrev Moment := Linearization.Moment Request (Option Response) Response

/-- The last two fields only record what happened. -/
structure State where
  store : Store
  channel : Nat
  stopping : Bool
  clients : Nat → Phase
  next : Nat
  history : List Moment

def State.initial : State := ⟨Store.empty, 0, false, fun _ => .idle, 0, []⟩

inductive Event where
  | connect (client : Nat) (arrived : Bytes) (ending : String)
  | run (client : Nat)
  | wake (client : Nat)
  | expire (client : Nat)
  | cancel (client : Nat)
  | deliver (client : Nat)
  | stop
deriving DecidableEq, Repr

def Event.client : Event → Option Nat
  | .connect client _ _ => some client
  | .run client => some client
  | .wake client => some client
  | .expire client => some client
  | .cancel client => some client
  | .deliver client => some client
  | .stop => none

def State.setClient (state : State) (client : Nat) (phase : Phase) : State :=
  { state with clients := Function.update state.clients client phase }

def State.invoke (state : State) (client : Nat) (request : Request) : State :=
  { state with
    clients := Function.update state.clients client (.ready ⟨state.next, request, false⟩)
    next := state.next + 1
    history := state.history ++ [.invoked state.next] }

def State.perform (config : Config) (state : State) (client : Nat) (call : Call) : State :=
  let effect := execute config.maxValue state.store call.request
  { state with
    store := effect.store
    channel := if effect.signals then state.channel + 1 else state.channel
    clients := Function.update state.clients client
      (match effect.response with
        | some response => .answered (some call.number) response
        | none => .parked call state.channel)
    history := state.history ++ [.ran ⟨call.number, call.request, effect.response⟩] }

def State.respond (state : State) (client : Nat) (number : Option Nat) (response : Response) :
    State :=
  { state with
    clients := Function.update state.clients client .idle
    history := state.history ++ (number.map fun number => Linearization.Moment.responded number
      response).toList }

def Request.blocks (request : Request) : Bool :=
  request.operation = .get && request.timeout != 0

def Call.expire (call : Call) : Call := { call with expired := true }

def Call.cancelled (call : Call) : Response :=
  if call.expired then ⟨.timeout, []⟩ else ⟨.internal, ascii "coordinator is stopping"⟩

def step (config : Config) (state : State) : Event → Option State
  | .connect client arrived ending =>
    match state.clients client with
    | .idle =>
      match admission config arrived ending with
      | .error response => some (state.setClient client (.answered none response))
      | .ok request => some (state.invoke client request)
    | _ => none
  | .run client =>
    match state.clients client with
    | .ready call => some (state.perform config client call)
    | _ => none
  | .wake client =>
    match state.clients client with
    | .parked call channel =>
      if channel ≠ state.channel then some (state.setClient client (.ready call)) else none
    | _ => none
  | .expire client =>
    if state.stopping then none
    else match state.clients client with
      | .ready call =>
        if call.request.blocks then some (state.setClient client (.ready call.expire))
        else none
      | .parked call channel => some (state.setClient client (.parked call.expire channel))
      | _ => none
  | .cancel client =>
    match state.clients client with
    | .parked call _ =>
      if call.expired || state.stopping then
        some (state.setClient client (.answered (some call.number) call.cancelled))
      else none
    | _ => none
  | .deliver client =>
    match state.clients client with
    | .answered number response => some (state.respond client number response)
    | _ => none
  | .stop => some { state with stopping := true }

def run (config : Config) : State → List Event → Option State
  | state, [] => some state
  | state, event :: events => (step config state event).bind fun next => run config next events

/-! ## What an event can do -/

section Updates

variable {config : Config} {state : State} {client : Nat}

@[simp] theorem State.setClient_self {phase : Phase} :
    (state.setClient client phase).clients client = phase := Function.update_self ..

@[simp] theorem State.invoke_self {request : Request} :
    (state.invoke client request).clients client = .ready ⟨state.next, request, false⟩ :=
  Function.update_self ..

@[simp] theorem State.respond_self {number : Option Nat} {response : Response} :
    (state.respond client number response).clients client = .idle := Function.update_self ..

theorem State.perform_answered {call : Call} {response : Response}
    (answered : (execute config.maxValue state.store call.request).response = some response) :
    (state.perform config client call).clients client = .answered (some call.number) response := by
  simp [State.perform, answered]

theorem State.perform_parked {call : Call}
    (unanswered : (execute config.maxValue state.store call.request).response = none) :
    (state.perform config client call).clients client = .parked call state.channel := by
  simp [State.perform, unanswered]

end Updates

inductive Transition (config : Config) (state : State) : Event → State → Prop where
  | reject {client arrived ending response} (idle : state.clients client = .idle)
      (refused : admission config arrived ending = .error response) :
      Transition config state (.connect client arrived ending)
        (state.setClient client (.answered none response))
  | invoke {client arrived ending request} (idle : state.clients client = .idle)
      (admitted : admission config arrived ending = .ok request) :
      Transition config state (.connect client arrived ending) (state.invoke client request)
  | perform {client call} (ready : state.clients client = .ready call) :
      Transition config state (.run client) (state.perform config client call)
  | wake {client call channel} (parked : state.clients client = .parked call channel)
      (closed : channel ≠ state.channel) :
      Transition config state (.wake client) (state.setClient client (.ready call))
  | expireReady {client call} (running : state.stopping = false)
      (ready : state.clients client = .ready call) (blocks : call.request.blocks = true) :
      Transition config state (.expire client) (state.setClient client (.ready call.expire))
  | expireParked {client call channel} (running : state.stopping = false)
      (parked : state.clients client = .parked call channel) :
      Transition config state (.expire client)
        (state.setClient client (.parked call.expire channel))
  | cancel {client call channel} (parked : state.clients client = .parked call channel)
      (ended : call.expired = true ∨ state.stopping = true) :
      Transition config state (.cancel client)
        (state.setClient client (.answered (some call.number) call.cancelled))
  | deliver {client number response} (answered : state.clients client = .answered number response) :
      Transition config state (.deliver client) (state.respond client number response)
  | stop : Transition config state .stop { state with stopping := true }

variable {config : Config} {event : Event} {state next : State}

theorem transition_of_step (stepped : step config state event = some next) :
    Transition config state event next := by
  cases event with
  | connect client arrived ending =>
    cases phase : state.clients client <;> simp only [step, phase] at stepped
    case idle =>
      cases outcome : admission config arrived ending <;> simp only [outcome] at stepped
      case error response => cases stepped; exact .reject phase outcome
      case ok request => cases stepped; exact .invoke phase outcome
    all_goals cases stepped
  | run client =>
    cases phase : state.clients client <;> simp only [step, phase] at stepped
    case ready call => cases stepped; exact .perform phase
    all_goals cases stepped
  | wake client =>
    cases phase : state.clients client <;> simp only [step, phase] at stepped
    case parked call channel =>
      split at stepped
      · cases stepped; exact .wake phase (by assumption)
      · cases stepped
    all_goals cases stepped
  | expire client =>
    simp only [step] at stepped
    cases running : state.stopping <;> simp only [running, if_true, Bool.false_eq_true,
      if_false] at stepped
    cases phase : state.clients client <;> simp only [phase] at stepped
    case ready call =>
      split at stepped
      · cases stepped; exact .expireReady running phase (by assumption)
      · cases stepped
    case parked call channel => cases stepped; exact .expireParked running phase
    all_goals cases stepped
  | cancel client =>
    cases phase : state.clients client <;> simp only [step, phase] at stepped
    case parked call channel =>
      split at stepped
      · rename_i ended
        cases stepped
        exact .cancel phase (by simpa using ended)
      · cases stepped
    all_goals cases stepped
  | deliver client =>
    cases phase : state.clients client <;> simp only [step, phase] at stepped
    case answered number response => cases stepped; exact .deliver phase
    all_goals cases stepped
  | stop => cases stepped; exact .stop

theorem Transition.frame (transition : Transition config state event next) {client : Nat}
    (other : event.client ≠ some client) : next.clients client = state.clients client := by
  have different : ∀ {mover : Nat}, some mover ≠ some client → client ≠ mover :=
    fun apart same => apart (congrArg some same.symm)
  cases transition with
  | stop => rfl
  | _ => exact Function.update_of_ne (different other) _ _

section Own

variable {client : Nat} {call : Call}

section

variable (transition : Transition config state event next)

include transition

variable (own : event.client = some client)

include own

/-- A client which is about to look runs, or its wait times out. -/
theorem Transition.of_ready (ready : state.clients client = .ready call) :
    event = .run client ∧ next = state.perform config client call ∨
      event = .expire client ∧ next = state.setClient client (.ready call.expire) := by
  cases transition with
  | perform other =>
    cases own
    cases other.symm.trans ready
    exact .inl ⟨rfl, rfl⟩
  | expireReady running other blocks =>
    cases own
    cases other.symm.trans ready
    exact .inr ⟨rfl, rfl⟩
  | stop => cases own
  | _ => cases own; simp_all

/-- A parked client wakes up, times out, or gives up. -/
theorem Transition.of_parked {channel : Nat}
    (parked : state.clients client = .parked call channel) :
    event = .wake client ∧ next = state.setClient client (.ready call) ∨
      event = .expire client ∧ next = state.setClient client (.parked call.expire channel) ∨
      event = .cancel client ∧ (call.expired = true ∨ state.stopping = true) ∧
        next = state.setClient client (.answered (some call.number) call.cancelled) := by
  cases transition with
  | wake other closed =>
    cases own
    cases other.symm.trans parked
    exact .inl ⟨rfl, rfl⟩
  | expireParked running other =>
    cases own
    cases other.symm.trans parked
    exact .inr (.inl ⟨rfl, rfl⟩)
  | cancel other ended =>
    cases own
    cases other.symm.trans parked
    exact .inr (.inr ⟨rfl, ended, rfl⟩)
  | stop => cases own
  | _ => cases own; simp_all

theorem Transition.of_answered {number : Option Nat} {response : Response}
    (answered : state.clients client = .answered number response)
    : next = state.respond client number response := by
  cases transition with
  | deliver other =>
    cases own
    cases other.symm.trans answered
    rfl
  | stop => cases own
  | _ => cases own; simp_all

end

end Own

theorem run_append {first second : List Event} :
    ∀ {state : State}, run config state (first ++ second) =
      (run config state first).bind fun middle => run config middle second := by
  induction first with
  | nil => intro state; rfl
  | cons event events induction =>
    intro state
    simp [run, Option.bind_assoc, induction]

theorem run_snoc {start final : State} {events : List Event}
    (ran : run config start (events ++ [event]) = some final) :
    ∃ state, run config start events = some state ∧ Transition config state event final := by
  rw [run_append] at ran
  rcases Option.bind_eq_some_iff.mp ran with ⟨state, before, last⟩
  rcases Option.bind_eq_some_iff.mp last with ⟨next, stepped, done⟩
  cases done
  exact ⟨state, before, transition_of_step stepped⟩

/-- An invariant of single events holds along a run. -/
theorem run_induction {invariant : State → Prop}
    (keeps : ∀ {state next event}, invariant state → Transition config state event next →
      invariant next) :
    ∀ {events : List Event} {state final : State}, invariant state →
      run config state events = some final → invariant final := by
  intro events
  induction events with
  | nil => intro state final holds ran; cases ran; exact holds
  | cons event events induction =>
    intro state final holds ran
    rcases Option.bind_eq_some_iff.mp ran with ⟨next, stepped, rest⟩
    exact induction (keeps holds (transition_of_step stepped)) rest

def Happens (config : Config) (start : State) (events : List Event)
    (what : State → Event → Prop) : Prop :=
  ∃ first event second state, events = first ++ event :: second ∧
    run config start first = some state ∧ what state event

section Happening

variable {start : State} {events : List Event} {what : State → Event → Prop}

theorem Happens.snoc (happens : Happens config start events what) :
    Happens config start (events ++ [event]) what := by
  rcases happens with ⟨first, other, second, middle, rfl, ran, holds⟩
  exact ⟨first, other, second ++ [event], middle, by simp, ran, holds⟩

theorem Happens.mem (happens : Happens config start events what) :
    ∃ event ∈ events, ∃ state, what state event := by
  rcases happens with ⟨first, event, second, middle, rfl, ran, holds⟩
  exact ⟨event, by simp, middle, holds⟩

theorem happens_last (ran : run config start events = some state) (holds : what state event) :
    Happens config start (events ++ [event]) what :=
  ⟨events, event, [], state, rfl, ran, holds⟩

end Happening

/-! ## Example requests -/

def Config.small : Config := ⟨[7], 64, 64, 0⟩

def smallRequest (operation timeout : UInt8) (key value : Bytes) : Bytes :=
  [67, 83, 75, 86, 1, operation, 0, 0, 0, 0, 0, timeout, 0, 0, 0, 1,
    0, 0, 0, UInt8.ofNat key.length, 0, 0, 0, UInt8.ofNat value.length,
    0, 0, 0, UInt8.ofNat (1 + key.length + value.length), 7] ++ key ++ value

example : admission .small (smallRequest 2 9 [1] []) "" = .ok ⟨.get, 9, [7], [1], []⟩ := by decide

end Coldsnap.Coordinator
