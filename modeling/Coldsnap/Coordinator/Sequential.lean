import Coldsnap.Coordinator.Waiting

/-! # The store is sequential

Every interleaving of clients has the answers and the final store of some order of
their requests, one after the other, which never contradicts real time.
-/

namespace Coldsnap.Coordinator

open Linearization List Function

def apply (maxValue : Nat) (store : Store) (request : Request) : Option Response × Store :=
  ((execute maxValue store request).response, (execute maxValue store request).store)

/-- What a client hears of its last critical section; a get without an answer has
timed out, or the coordinator stops. -/
def Answers (outcome : Option Response) (response : Response) : Prop :=
  match outcome with
  | some answer => response = answer
  | none => response.status = .timeout ∨ response.status = .internal

theorem cancelled_answers (call : Call) : Answers none call.cancelled := by
  unfold Call.cancelled
  split
  · exact .inl rfl
  · exact .inr rfl

variable {store : Store} {request : Request} {maxValue : Nat}

theorem apply_silent (unanswered : (apply maxValue store request).1 = none) :
    (apply maxValue store request).2 = store := by
  have quiet := (execute_unanswered unanswered).2.2
  rw [apply, quiet]

/-! ## What is recorded about a client -/

def Undecided (history : List Moment) (number : Nat) : Prop :=
  ∀ step ∈ steps history, step.number = number → step.outcome = none

def Answered (history : List Moment) (number : Nat) (response : Response) : Prop :=
  ∃ outcome, LastOutcome (steps history) number outcome ∧ Answers outcome response

def Phase.Recorded (history : List Moment) : Phase → Prop
  | .ready call => Undecided history call.number
  | .parked call _ =>
    Undecided history call.number ∧ LastOutcome (steps history) call.number none
  | .answered (some number) response => Answered history number response
  | _ => True

variable {phase : Phase} {history other : List Moment}

theorem Phase.Recorded.of_steps_eq (same : steps other = steps history)
    (recorded : phase.Recorded history) : phase.Recorded other := by
  unfold Phase.Recorded Undecided Answered at recorded ⊢
  rw [same]
  exact recorded

theorem Phase.Recorded.snoc {step : Section} (same : steps other = steps history ++ [step])
    (apart : phase.number ≠ some step.number) (recorded : phase.Recorded history) :
    phase.Recorded other := by
  have undecided : ∀ {number}, number ≠ step.number → Undecided history number →
      Undecided other number := by
    intro number different before earlier member equal
    rw [same, mem_append, mem_singleton] at member
    rcases member with early | rfl
    · exact before earlier early equal
    · exact absurd equal.symm different
  have ended : ∀ {number outcome}, number ≠ step.number →
      LastOutcome (steps history) number outcome → LastOutcome (steps other) number outcome := by
    intro number outcome different before
    rw [same]
    exact before.snoc different.symm
  cases phase with
  | idle => trivial
  | ready call => exact undecided (fun equal => apart (congrArg some equal)) recorded
  | parked call channel =>
    have different : call.number ≠ step.number := fun equal => apart (congrArg some equal)
    exact ⟨undecided different recorded.1, ended different recorded.2⟩
  | answered number response =>
    cases number with
    | none => trivial
    | some number =>
      rcases recorded with ⟨outcome, last, answers⟩
      exact ⟨outcome, ended (fun equal => apart (congrArg some equal)) last, answers⟩

/-! ## Consistency -/

/-- The recorded history explains the store, and every client stands where the
history leaves it. -/
structure Consistent (maxValue : Nat) (state : State) : Prop where
  replays : Replays (apply maxValue) Store.empty (steps state.history) state.store
  silent : Silent (apply maxValue) (steps state.history)
  orderly : Orderly state.history
  fresh : ∀ number, .invoked number ∈ state.history → number < state.next
  pending : ∀ {client number}, (state.clients client).number = some number →
    .invoked number ∈ state.history ∧ ∀ response, .responded number response ∉ state.history
  apart : ∀ {left right number}, (state.clients left).number = some number →
    (state.clients right).number = some number → left = right
  recorded : ∀ client, (state.clients client).Recorded state.history
  answered : ∀ number response, .responded number response ∈ state.history →
    Answered state.history number response

namespace Consistent

variable {state : State} {client : Nat}

theorem initial : Consistent maxValue .initial where
  replays := rfl
  silent := by
    intro earlier step later split
    exact absurd split (by simp [steps, State.initial])
  orderly := ⟨fun earlier step later split => absurd split (by simp [State.initial]),
    fun earlier number later split => absurd split (by simp [State.initial])⟩
  fresh := nofun
  pending := nofun
  apart := nofun
  recorded _ := trivial
  answered := nofun

variable {other number : Nat}

/-- The call of a phase after one client moved. -/
theorem number_update {clients : Nat → Phase}
    (holds : (update clients client phase other).number = some number) :
    other = client ∧ phase.number = some number ∨
      other ≠ client ∧ (clients other).number = some number := by
  by_cases same : other = client
  · subst same
    rw [update_self] at holds
    exact .inl ⟨rfl, holds⟩
  · rw [update_of_ne same] at holds
    exact .inr ⟨same, holds⟩

section

variable (consistent : Consistent maxValue state)

include consistent

section

variable (kept : ∀ number, phase.number = some number → (state.clients client).number = some number)

include kept

theorem apart_update {left right : Nat}
    (first : (update state.clients client phase left).number = some number)
    (second : (update state.clients client phase right).number = some number) : left = right := by
  have before : ∀ {other}, (update state.clients client phase other).number =
      some number → (state.clients other).number = some number := by
    intro other holds
    rcases number_update holds with ⟨rfl, here⟩ | ⟨_, there⟩
    · exact kept number here
    · exact there
  exact consistent.apart (before first) (before second)

theorem pending_update (holds : (update state.clients client phase other).number = some number) :
    .invoked number ∈ state.history ∧ ∀ response, .responded number response ∉ state.history := by
  rcases number_update holds with ⟨_, here⟩ | ⟨_, there⟩
  · exact consistent.pending (kept number here)
  · exact consistent.pending there

omit kept in
theorem fresh_snoc {moment : Moment} (old : ∀ number, moment ≠ .invoked number) (number : Nat)
    (member : .invoked number ∈ state.history ++ [moment]) : number < state.next := by
  rcases mem_append.mp member with early | new
  · exact consistent.fresh number early
  · exact absurd (mem_singleton.mp new).symm (old number)

/-- A client moves on in its call, and nothing answers the call which it serves. -/
theorem pending_snoc {moment : Moment}
    (holds : (update state.clients client phase other).number = some number)
    (unanswered : ∀ response, moment ≠ .responded number response) :
    .invoked number ∈ state.history ++ [moment] ∧
      ∀ response, .responded number response ∉ state.history ++ [moment] := by
  have before := consistent.pending_update kept holds
  apply And.intro (mem_append_left _ before.1)
  intro response member
  rcases mem_append.mp member with early | new
  · exact before.2 response early
  · exact unanswered response (mem_singleton.mp new).symm

end

omit consistent in
theorem recorded_update (own : phase.Recorded history)
    (others : ∀ other, other ≠ client → (state.clients other).Recorded history) :
    ∀ other, (update state.clients client phase other).Recorded history :=
  (forall_update_iff _ fun _ => Phase.Recorded history).mpr ⟨own, others⟩

theorem setClient
    (kept : ∀ number, phase.number = some number → (state.clients client).number = some number)
    (records : phase.Recorded state.history) :
    Consistent maxValue (state.setClient client phase) where
  __ := consistent
  pending := consistent.pending_update kept
  apart := consistent.apart_update kept
  recorded := recorded_update records fun other _ => consistent.recorded other

variable (history : List Moment)

omit consistent in
theorem steps_snoc {moment : Moment} (idle : steps [moment] = []) :
    steps (history ++ [moment]) = steps history := by
  rw [steps_append, idle, append_nil]

theorem invoke (request : Request) : Consistent maxValue (state.invoke client request) := by
  have unused : .invoked state.next ∉ state.history := fun member =>
    Nat.lt_irrefl _ (consistent.fresh _ member)
  have older : ∀ {other number}, (state.clients other).number = some number →
      number ≠ state.next := by
    rintro other number holds rfl
    exact unused (consistent.pending holds).1
  have unanswered : ∀ response, .responded state.next response ∉ state.history := by
    intro response member
    rcases consistent.answered _ _ member with ⟨outcome, ⟨_, step, _, split, same, _⟩, _⟩
    have ran : step ∈ steps state.history := by
      rw [split]
      exact mem_append_right _ mem_cons_self
    have begun := consistent.orderly.invoked ran
    rw [same] at begun
    exact unused begun
  have same : steps (state.invoke client request).history = steps state.history :=
    steps_snoc _ rfl
  exact {
    replays := by
      rw [same]
      exact consistent.replays
    silent := by
      rw [same]
      exact consistent.silent
    orderly := by
      apply consistent.orderly.snoc
      · exact nofun
      · intro number invoked
        cases invoked
        exact unused
    fresh := by
      intro number member
      simp only [State.invoke, mem_append, mem_singleton] at member ⊢
      rcases member with early | new
      · exact Nat.lt_succ_of_lt (consistent.fresh number early)
      · cases new
        exact Nat.lt_succ_self _
    pending := by
      intro other number holds
      simp only [State.invoke, mem_append, mem_singleton] at holds ⊢
      rcases number_update holds with ⟨_, new⟩ | ⟨_, old⟩
      · cases new
        refine ⟨.inr rfl, fun response member => ?_⟩
        rcases member with early | new
        · exact unanswered response early
        · cases new
      · have before := consistent.pending old
        refine ⟨.inl before.1, fun response member => ?_⟩
        rcases member with early | new
        · exact before.2 response early
        · cases new
    apart := by
      intro left right number first second
      rcases number_update first with ⟨rfl, new⟩ | ⟨_, old⟩
      · cases new
        rcases number_update second with ⟨rfl, _⟩ | ⟨_, old⟩
        · rfl
        · exact absurd rfl (older old)
      · rcases number_update second with ⟨rfl, new⟩ | ⟨_, also⟩
        · cases new
          exact absurd rfl (older old)
        · exact consistent.apart old also
    recorded := by
      apply recorded_update _ fun other _ => (consistent.recorded other).of_steps_eq same
      intro step member equal
      rw [same] at member
      have begun := consistent.orderly.invoked member
      rw [equal] at begun
      exact absurd begun unused
    answered := by
      intro number response member
      simp only [State.invoke, mem_append, mem_singleton] at member
      rcases member with early | new
      · rw [Answered, same]
        exact consistent.answered number response early
      · cases new }

omit consistent in
theorem perform {config : Config} (consistent : Consistent config.maxValue state) {call : Call}
    (ready : state.clients client = .ready call) :
    Consistent config.maxValue (state.perform config client call) := by
  let done := execute config.maxValue state.store call.request
  let step : Section := ⟨call.number, call.request, done.response⟩
  let phase : Phase := (state.perform config client call).clients client
  have same : steps (state.perform config client call).history = steps state.history ++ [step] :=
    steps_append _ _
  have number : phase.number = some call.number := by
    cases outcome : done.response with
    | some response => rw [show phase = _ from State.perform_answered outcome, Phase.number]
    | none => rw [show phase = _ from State.perform_parked outcome, Phase.number]
  have updated : (state.perform config client call).clients =
      update state.clients client phase := by
    funext other
    by_cases own : other = client
    · rw [own, update_self]
    · rw [update_of_ne own, State.perform]
      exact update_of_ne own _ _
  have serving : (state.clients client).number = some call.number := by
    rw [ready]
    rfl
  have kept : ∀ other, phase.number = some other → (state.clients client).number = some other := by
    intro other holds
    rw [serving, ← number, holds]
  have undecided : Undecided state.history call.number := by
    have recorded := consistent.recorded client
    rw [ready] at recorded
    exact recorded
  have unchanged : ∀ {number response}, .responded number response ∈ state.history →
      number ≠ call.number := by
    rintro number response member rfl
    exact (consistent.pending serving).2 response member
  exact {
    replays := by
      rw [same]
      exact consistent.replays.append ⟨rfl, rfl⟩
    silent := by
      rw [same]
      apply consistent.silent.snoc
      intro earlier member equal store outcome
      rw [undecided earlier member equal] at outcome
      exact apply_silent outcome
    orderly := by
      apply consistent.orderly.snoc
      · intro other ran
        cases ran
        exact consistent.pending serving
      · intro number invoked
        cases invoked
    fresh := by
      apply consistent.fresh_snoc
      intro number invoked
      cases invoked
    pending := by
      intro other number holds
      rw [updated] at holds
      apply consistent.pending_snoc kept holds
      intro response responded
      cases responded
    apart := by
      rw [updated]
      exact consistent.apart_update kept
    recorded := by
      rw [updated]
      apply recorded_update
      · have last : LastOutcome (steps (state.perform config client call).history) call.number
            done.response := by
          rw [same]
          exact ⟨_, step, [], rfl, rfl, not_mem_nil, rfl⟩
        cases outcome : done.response with
        | some response =>
          rw [outcome] at last
          rw [show phase = _ from State.perform_answered outcome]
          exact ⟨some response, last, rfl⟩
        | none =>
          rw [outcome] at last
          rw [show phase = _ from State.perform_parked outcome]
          refine ⟨fun earlier member equal => ?_, last⟩
          rw [same, mem_append, mem_singleton] at member
          rcases member with early | rfl
          · exact undecided earlier early equal
          · exact outcome
      · intro other own
        apply (consistent.recorded other).snoc same
        exact fun also => own (consistent.apart also serving)
    answered := by
      intro number response member
      rcases mem_append.mp member with early | new
      · rcases consistent.answered number response early with ⟨outcome, last, answers⟩
        refine ⟨outcome, ?_, answers⟩
        rw [same]
        exact last.snoc (unchanged early).symm
      · cases mem_singleton.mp new }

theorem respond {response : Response}
    (waiting : state.clients client = .answered (some number) response) :
    Consistent maxValue (state.respond client (some number) response) := by
  have same : steps (state.respond client (some number) response).history =
      steps state.history := steps_snoc _ rfl
  have serving : (state.clients client).number = some number := by
    rw [waiting]
    rfl
  have answered : Answered state.history number response := by
    have recorded := consistent.recorded client
    rw [waiting] at recorded
    exact recorded
  have kept : ∀ other, Phase.idle.number = some other →
      (state.clients client).number = some other := nofun
  exact {
    replays := by
      rw [same]
      exact consistent.replays
    silent := by
      rw [same]
      exact consistent.silent
    orderly := by
      apply consistent.orderly.snoc
      · exact nofun
      · exact nofun
    fresh := by
      apply consistent.fresh_snoc
      intro number invoked
      cases invoked
    pending := by
      intro other call holds
      apply consistent.pending_snoc kept holds
      intro answer equal
      cases equal
      rcases number_update holds with ⟨_, here⟩ | ⟨different, there⟩
      · cases here
      · exact different (consistent.apart there serving)
    apart := consistent.apart_update kept
    recorded := recorded_update trivial fun other _ =>
      (consistent.recorded other).of_steps_eq same
    answered := by
      intro call answer member
      rw [Answered, same]
      rcases mem_append.mp member with early | new
      · exact consistent.answered call answer early
      · cases mem_singleton.mp new
        exact answered }

end

end Consistent

variable {config : Config} {next : State} {event : Event} {state : State}

theorem Transition.consistent (consistent : Consistent config.maxValue state)
    (transition : Transition config state event next) : Consistent config.maxValue next := by
  have recorded : ∀ {client phase}, state.clients client = phase → phase.Recorded state.history :=
    fun same => same ▸ consistent.recorded _
  cases transition with
  | reject idle refused => exact consistent.setClient nofun trivial
  | invoke idle admitted => exact consistent.invoke _
  | perform ready => exact consistent.perform ready
  | wake parked closed =>
    exact consistent.setClient (fun _ holds => parked ▸ holds) (recorded parked).1
  | expireReady running ready blocks =>
    have undecided := recorded ready
    exact consistent.setClient (fun _ holds => ready ▸ holds) undecided
  | expireParked running parked =>
    have undecided := recorded parked
    exact consistent.setClient (fun _ holds => parked ▸ holds) undecided
  | cancel parked ended =>
    exact consistent.setClient (fun _ holds => parked ▸ holds)
      ⟨none, (recorded parked).2, cancelled_answers _⟩
  | deliver answered =>
    rename_i client number response
    cases number with
    | some number => exact consistent.respond answered
    | none =>
      have silent : state.respond client none response = state.setClient client .idle := by
        simp [State.respond, State.setClient]
      rw [silent]
      exact consistent.setClient nofun trivial
  | stop =>
    exact { consistent with }

/-! ## Adds -/

def runningTotals : Int → List Int → List Int
  | _, [] => []
  | start, delta :: deltas => (start + delta) :: runningTotals (start + delta) deltas

def added (key : Bytes) (step : Section) : Option (Int × Bytes) :=
  if step.request.operation = .add ∧ step.request.key = key then
    match step.outcome, parseInt step.request.value with
    | some ⟨.ok, total⟩, some delta => some (delta, total)
    | _, _ => none
  else none

def deltas (key : Bytes) (all : List Section) : List Int :=
  (all.filterMap (added key)).map Prod.fst

def totals (key : Bytes) (all : List Section) : List Bytes :=
  (all.filterMap (added key)).map Prod.snd

def OnlyAdds (key : Bytes) (all : List Section) : Prop :=
  ∀ step ∈ all, step.request.key = key → ∀ value, step.outcome = some ⟨.ok, value⟩ →
    step.request.operation = .add ∨ step.request.operation = .get ∨ step.request.operation = .health

variable {key : Bytes} {current : Int}

theorem current_bounds (stored : store.current key = some current) : IsInt64 current := by
  unfold Store.current at stored
  split at stored
  · exact parseInt_bounds stored
  · cases stored
    decide

theorem sum_bounds {delta : Int} (bounds : IsInt64 current)
    (fits : addOverflows current delta = false) : IsInt64 (current + delta) := by
  simp only [addOverflows, Bool.or_eq_false_iff, Bool.and_eq_false_iff, decide_eq_false_iff_not]
    at fits
  omega

theorem current_update_of_ne {other : Bytes} {value : Option Bytes} (different : other ≠ key) :
    Store.current (update store key value) other = store.current other := by
  unfold Store.current
  rw [update_of_ne different]

theorem apply_adds {start : Int} {step : Section}
    (outcome : (apply maxValue store step.request).1 = step.outcome) (only : OnlyAdds key [step])
    (stored : store.current key = some start) :
    added key step = none ∧ (apply maxValue store step.request).2.current key = some start ∨
      ∃ delta, IsInt64 (start + delta) ∧
        added key step = some (delta, formatInt (start + delta)) ∧
        (apply maxValue store step.request).2.current key = some (start + delta) := by
  have only := only step (mem_singleton.mpr rfl)
  have done := executed maxValue store step.request
  unfold apply at outcome ⊢
  generalize execute maxValue store step.request = effect at done outcome ⊢
  have elsewhere : ∀ {value : Option Bytes}, step.request.key ≠ key →
      added key step = none ∧ Store.current (update store step.request.key value) key =
        some start := by
    intro value different
    rw [current_update_of_ne different.symm]
    exact ⟨if_neg fun both => different both.2, stored⟩
  have changed : ∀ {value : Option Bytes}, step.outcome = some ⟨.ok, []⟩ →
      step.request.operation ∉ [.add, .get, .health] → added key step = none ∧
        Store.current (update store step.request.key value) key = some start := by
    intro value answered asked
    refine elsewhere fun same => asked ?_
    simpa using only same [] answered
  cases done with
  | refused failed =>
    left
    refine ⟨?_, stored⟩
    unfold added
    split
    · split
      · rename_i equal _
        rw [← outcome] at equal
        cases equal
        exact absurd rfl failed
      · rfl
    · rfl
  | healthy asked => exact .inl ⟨if_neg (by simp [asked]), stored⟩
  | found asked present => exact .inl ⟨if_neg (by simp [asked]), stored⟩
  | absent asked named blocks missing => exact .inl ⟨if_neg (by simp [asked]), stored⟩
  | add asked parsed before fits =>
    rename_i delta current
    by_cases same : step.request.key = key
    · subst same
      cases before.symm.trans stored
      have bounds := sum_bounds (current_bounds stored) fits
      refine .inr ⟨delta, bounds, ?_, ?_⟩
      · rw [added, if_pos ⟨asked, rfl⟩, ← outcome, parsed]
        rfl
      · simp only [Effect.change, Store.current, update_self]
        exact parseInt_formatInt bounds
    · exact .inl (elsewhere same)
  | set asked => exact .inl (changed outcome.symm (by simp [asked]))
  | delete asked => exact .inl (changed outcome.symm (by simp [asked]))
  | append asked fits => exact .inl (changed outcome.symm (by simp [asked]))

/-- Between two points of a sequential history where only adds change a key, it
grows by their sum, and each of them returns its running total. -/
theorem replays_adds {adding : List Section} :
    ∀ {before after : Store} {start : Int}, Replays (apply maxValue) before adding after →
      OnlyAdds key adding → before.current key = some start →
      after.current key = some (start + (deltas key adding).sum) ∧
        totals key adding = (runningTotals start (deltas key adding)).map formatInt ∧
        ∀ total ∈ runningTotals start (deltas key adding), IsInt64 total := by
  induction adding with
  | nil =>
    intro before after start replays _ stored
    cases replays
    refine ⟨?_, rfl, nofun⟩
    simpa [deltas] using stored
  | cons step rest induction =>
    intro before after start replays only stored
    have here : OnlyAdds key [step] := forall_mem_singleton.mpr (only step mem_cons_self)
    have there : OnlyAdds key rest := (forall_mem_cons.mp only).2
    rcases apply_adds replays.1 here stored with ⟨none, kept⟩ | ⟨delta, bounds, some, grown⟩
    · have same := induction replays.2 there kept
      simp only [deltas, totals, filterMap_cons_none none]
      exact same
    · have later := induction replays.2 there grown
      simp only [deltas, totals, filterMap_cons_some some, map_cons, sum_cons,
        runningTotals, mem_cons]
      refine ⟨?_, ?_, ?_⟩
      · rw [← Int.add_assoc]
        exact later.1
      · exact congrArg _ later.2.1
      · rintro total (rfl | member)
        · exact bounds
        · exact later.2.2 total member

theorem runningTotals_increase {deltas : List Int} :
    ∀ {start : Int}, (∀ delta ∈ deltas, 0 < delta) →
      (∀ total ∈ runningTotals start deltas, start < total) ∧
        (runningTotals start deltas).Pairwise (· < ·) := by
  induction deltas with
  | nil => exact fun _ => ⟨nofun, .nil⟩
  | cons delta rest induction =>
    intro start positive
    have first := positive delta mem_cons_self
    have later := @induction (start + delta) (forall_mem_cons.mp positive).2
    refine ⟨forall_mem_cons.mpr ⟨by omega, fun total member => ?_⟩, pairwise_cons.mpr later⟩
    have := later.1 total member
    omega

/-- Adds of positive deltas return different numbers. -/
theorem totals_nodup {start : Int} {deltas : List Int} (positive : ∀ delta ∈ deltas, 0 < delta)
    (bounds : ∀ total ∈ runningTotals start deltas, IsInt64 total) :
    ((runningTotals start deltas).map formatInt).Nodup := by
  apply Nodup.map_on
  · intro left first right second equal
    have parsed := parseInt_formatInt (bounds left first)
    rw [equal, parseInt_formatInt (bounds right second)] at parsed
    exact (Option.some.inj parsed).symm
  · exact (runningTotals_increase positive).2.imp Int.ne_of_lt

/-! ## Failing requests -/

/-- Why a request is refused in its critical section: an add which is not about
integers or whose sum is out of range, an append which makes the value too long. -/
inductive Faulty (maxValue : Nat) (store : Store) (request : Request) : Prop where
  | notNumeric (asked : request.operation = .add) (garbled : parseInt request.value = none)
  | storedNotNumeric (asked : request.operation = .add) (garbled : store.current request.key = none)
  | overflow {delta current : Int} (asked : request.operation = .add)
      (parsed : parseInt request.value = some delta)
      (stored : store.current request.key = some current)
      (outside : current + delta < minInt64 ∨ maxInt64 < current + delta)
  | tooLarge (asked : request.operation = .append)
      (long : maxValue < ((store request.key).getD []).length + request.value.length)

theorem addOverflows_of_outside {delta : Int}
    (outside : current + delta < minInt64 ∨ maxInt64 < current + delta)
    (bounds : IsInt64 current) : addOverflows current delta = true := by
  cases fits : addOverflows current delta with
  | true => rfl
  | false =>
    have inside := sum_bounds bounds fits
    omega

theorem Faulty.refused (faulty : Faulty maxValue store request) : ∃ response,
      (execute maxValue store request).response = some response ∧ response.status ≠ .ok := by
  have done := executed maxValue store request
  generalize execute maxValue store request = effect at done ⊢
  cases done with
  | refused failed => exact ⟨_, rfl, failed⟩
  | healthy asked => cases faulty <;> simp_all
  | found asked present => cases faulty <;> simp_all
  | absent asked named blocks missing => cases faulty <;> simp_all
  | set asked => cases faulty <;> simp_all
  | delete asked => cases faulty <;> simp_all
  | add asked parsed stored fits =>
    cases faulty with
    | notNumeric also garbled => cases garbled.symm.trans parsed
    | storedNotNumeric also garbled => cases garbled.symm.trans stored
    | overflow also parsed' stored' outside =>
      cases parsed.symm.trans parsed'
      cases stored.symm.trans stored'
      cases fits.symm.trans (addOverflows_of_outside outside (current_bounds stored))
    | tooLarge also long => simp_all
  | append asked fits =>
    cases faulty with
    | tooLarge also long => omega
    | _ => simp_all

theorem execute_failed {response : Response}
    (answered : (execute maxValue store request).response = some response)
    (failed : response.status ≠ .ok) : (execute maxValue store request).store = store := by
  have done := executed maxValue store request
  generalize execute maxValue store request = effect at done answered ⊢
  cases done <;> first | rfl | (cases answered; exact absurd rfl failed)

/-- An event after which a client is answered with a failure changes no value. -/
theorem Transition.failed (transition : Transition config state event next) {client : Nat}
    {number : Option Nat} {response : Response} (own : event.client = some client)
    (answered : next.clients client = .answered number response) (failed : response.status ≠ .ok) :
    next.store = state.store := by
  cases transition with
  | perform ready =>
    rename_i mover call
    cases own
    cases outcome : (execute config.maxValue state.store call.request).response with
    | none =>
      rw [State.perform_parked outcome] at answered
      cases answered
    | some reply =>
      rw [State.perform_answered outcome] at answered
      cases answered
      exact execute_failed outcome failed
  | _ => rfl

/-! ## Sizes -/

def Phase.Within (maxValue : Nat) : Phase → Prop
  | .ready call => call.request.value.length ≤ maxValue
  | .parked call _ => call.request.value.length ≤ maxValue
  | _ => True

structure Bounded (maxValue : Nat) (state : State) : Prop where
  stored : ∀ key value, state.store key = some value → value.length ≤ maxValue
  requested : ∀ client, (state.clients client).Within maxValue

theorem execute_bounded (enough : 20 ≤ maxValue) (requested : request.value.length ≤ maxValue)
    (stored : ∀ key value, store key = some value → value.length ≤ maxValue) :
    ∀ key value, (execute maxValue store request).store key = some value →
      value.length ≤ maxValue := by
  have changed : ∀ new : Option Bytes, (new.getD []).length ≤ maxValue →
      ∀ key value, update store request.key new key = some value → value.length ≤ maxValue := by
    intro new short key value holds
    by_cases same : key = request.key
    · rw [same, update_self] at holds
      rwa [holds] at short
    · rw [update_of_ne same] at holds
      exact stored key value holds
  have done := executed maxValue store request
  generalize execute maxValue store request = effect at done ⊢
  cases done with
  | set asked => exact changed (some _) requested
  | delete asked => exact changed none (Nat.zero_le _)
  | add asked parsed before fits =>
    have bounds := sum_bounds (current_bounds before) fits
    exact changed (some _) (Nat.le_trans (formatInt_length bounds) enough)
  | append asked fits =>
    apply changed (some _)
    rw [Option.getD_some, length_append]
    exact fits
  | _ => exact stored

theorem admit_value {arrived : Bytes} {ending : String}
    (admitted : admission config arrived ending = .ok request) :
    request.value.length ≤ config.maxValue := by
  unfold admission at admitted
  split at admitted
  · cases admitted
  · rename_i read
    split at admitted
    · cases admitted
    · split at admitted
      · cases admitted
      · cases admitted
        exact readRequest_value read

theorem within_update {clients : Nat → Phase} (within : ∀ client, (clients client).Within maxValue)
    {client : Nat} (new : phase.Within maxValue) (other : Nat) :
    (update clients client phase other).Within maxValue :=
  (forall_update_iff _ fun _ => Phase.Within maxValue).mpr ⟨new, fun other _ => within other⟩ other

theorem Transition.bounded (enough : 20 ≤ config.maxValue)
    (bounded : Bounded config.maxValue state) (transition : Transition config state event next) :
    Bounded config.maxValue next := by
  have within : ∀ {client phase}, state.clients client = phase → phase.Within config.maxValue :=
    fun same => same ▸ bounded.requested _
  cases transition with
  | invoke idle admitted =>
    exact ⟨bounded.stored, within_update bounded.requested (admit_value admitted)⟩
  | perform ready =>
    rename_i client call
    have small := within ready
    refine ⟨execute_bounded enough small bounded.stored, ?_⟩
    apply within_update bounded.requested
    cases (execute config.maxValue state.store call.request).response with
    | some response => trivial
    | none => exact small
  | wake parked closed =>
    have small := within parked
    exact ⟨bounded.stored, within_update bounded.requested small⟩
  | expireReady running ready blocks =>
    have small := within ready
    exact ⟨bounded.stored, within_update bounded.requested small⟩
  | expireParked running parked =>
    have small := within parked
    exact ⟨bounded.stored, within_update bounded.requested small⟩
  | stop => exact ⟨bounded.stored, bounded.requested⟩
  | _ => exact ⟨bounded.stored, within_update bounded.requested trivial⟩

/-! ## The store of a run -/

theorem admit_unauthorized {arrived : Bytes} {ending : String}
    (read : readRequest config.maxKey config.maxValue arrived ending = .ok request)
    (wrong : request.token ≠ config.token) :
    admission config arrived ending = .error ⟨.unauthorized, ascii "invalid token"⟩ := by
  simp only [admission, read]
  exact if_pos wrong

/-- Every interleaving is explained by a sequential order of its requests which
agrees with real time. In it adds sum up, each returning its running total.
Requests which fail leave the store alone, among them those without the token
and the faulty ones, and no stored value outgrows a limit of at least twenty. -/
theorem store_sequential (config : Config) {events : List Event} {state : State}
    (reached : run config .initial events = some state) :
    (∃ order, Linearizes (apply config.maxValue) Answers Store.empty state.history state.store
        order ∧
      ∀ first adding rest, order = first ++ (adding ++ rest) → ∃ before after,
        Replays (apply config.maxValue) Store.empty first before ∧
        Replays (apply config.maxValue) before adding after ∧
        Replays (apply config.maxValue) after rest state.store ∧
        ∀ key start, OnlyAdds key adding → before.current key = some start →
          after.current key = some (start + (deltas key adding).sum) ∧
          totals key adding = (runningTotals start (deltas key adding)).map formatInt ∧
          ((∀ delta ∈ deltas key adding, 0 < delta) → (totals key adding).Nodup)) ∧
    (∀ event next client number response, step config state event = some next →
      event.client = some client → next.clients client = .answered number response →
      response.status ≠ .ok → next.store = state.store) ∧
    (∀ client arrived ending request next,
      readRequest config.maxKey config.maxValue arrived ending = .ok request →
      request.token ≠ config.token →
      step config state (.connect client arrived ending) = some next →
      next.clients client = .answered none ⟨.unauthorized, ascii "invalid token"⟩) ∧
    (∀ client call next, state.clients client = .ready call →
      Faulty config.maxValue state.store call.request →
      step config state (.run client) = some next → ∃ response,
        next.clients client = .answered (some call.number) response ∧ response.status ≠ .ok) ∧
    (20 ≤ config.maxValue → ∀ key value, state.store key = some value →
      value.length ≤ config.maxValue) := by
  have consistent := run_induction (fun consistent transition => transition.consistent consistent)
    Consistent.initial reached
  refine ⟨⟨_, linearizes consistent.orderly consistent.silent consistent.replays
    consistent.answered, ?_⟩, ?_, ?_, ?_, ?_⟩
  · intro first adding rest split
    have whole := consistent.replays.lastSteps consistent.silent
    rw [split] at whole
    rcases whole.split with ⟨before, start, continued⟩
    rcases continued.split with ⟨after, middle, finish⟩
    refine ⟨before, after, start, middle, finish, ?_⟩
    intro key value only stored
    rcases replays_adds middle only stored with ⟨sum, returned, bounds⟩
    refine ⟨sum, returned, fun positive => ?_⟩
    rw [returned]
    exact totals_nodup positive bounds
  · intro event next client number response stepped own answered failed
    exact (transition_of_step stepped).failed own answered failed
  · intro client arrived ending request next read wrong stepped
    cases transition_of_step stepped with
    | reject idle refused =>
      cases (admit_unauthorized read wrong).symm.trans refused
      exact State.setClient_self
    | invoke idle admitted => cases (admit_unauthorized read wrong).symm.trans admitted
  · intro client call next ready faulty stepped
    rcases faulty.refused with ⟨response, answered, failed⟩
    rcases (transition_of_step stepped).of_ready rfl ready with ⟨_, rfl⟩ | ⟨other, _⟩
    · exact ⟨response, State.perform_answered answered, failed⟩
    · cases other
  · intro enough
    have initially : Bounded config.maxValue .initial :=
      ⟨nofun, fun _ => trivial⟩
    exact (run_induction (fun bounded transition => transition.bounded enough bounded) initially
      reached).stored

def exampleAdd (digit : UInt8) : Request := ⟨.add, 0, [7], [1], [digit]⟩

/-- Two clients add to a key at the same time, and the second one comes first. -/
def exampleAdds (first second : UInt8) : List Event :=
  [.connect 0 (smallRequest 5 0 [1] [first]) "", .connect 1 (smallRequest 5 0 [1] [second]) "",
    .run 1, .run 0]

def exampleAdded (first second : UInt8) : State :=
  (((State.initial.invoke 0 (exampleAdd first)).invoke 1 (exampleAdd second)).perform .small 1
    ⟨1, exampleAdd second, false⟩).perform .small 0 ⟨0, exampleAdd first, false⟩

theorem store_sequential_example :
    (exampleAdded 50 51).store [1] = some [53] ∧
    (exampleAdded 50 51).clients 0 = .answered (some 0) ⟨.ok, [53]⟩ ∧
    (exampleAdded 50 51).clients 1 = .answered (some 1) ⟨.ok, [51]⟩ ∧
    (∃ order, Linearizes (apply 64) Answers Store.empty (exampleAdded 50 51).history
      (exampleAdded 50 51).store order) ∧
    ∀ key value, (exampleAdded 50 51).store key = some value → value.length ≤ 64 := by
  have reached : run .small .initial (exampleAdds 50 51) = some (exampleAdded 50 51) := rfl
  rcases store_sequential .small reached with ⟨⟨order, explains, _⟩, _, _, _, bounded⟩
  exact ⟨by decide, by decide, by decide, ⟨order, explains⟩, bounded (by decide)⟩

/-- Two adds of zero return the same total. -/
theorem zero_adds_alike :
    run .small .initial (exampleAdds 48 48) = some (exampleAdded 48 48) ∧
    (exampleAdded 48 48).clients 0 = .answered (some 0) ⟨.ok, [48]⟩ ∧
    (exampleAdded 48 48).clients 1 = .answered (some 1) ⟨.ok, [48]⟩ :=
  ⟨rfl, by decide, by decide⟩

end Coldsnap.Coordinator
