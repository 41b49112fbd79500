import Mathlib.Logic.Basic

/-! # Runs of a transition system

Events lead from state to state, where they can occur at all.
-/

namespace Coldsnap.Transitions

variable {σ ε : Type}

def run (step : σ → ε → Option σ) : σ → List ε → Option σ
  | state, [] => some state
  | state, event :: events => (step state event).bind fun next => run step next events

def Throughout (step : σ → ε → Option σ) (good : σ → Prop) : σ → List ε → Prop
  | state, [] => good state
  | state, event :: events =>
    good state ∧ ∀ next, step state event = some next → Throughout step good next events

def Each (step : σ → ε → Option σ) (admitted : σ → ε → Prop) : σ → List ε → Prop
  | _, [] => True
  | state, event :: events =>
    ∀ next, step state event = some next → admitted state event ∧ Each step admitted next events

variable {step : σ → ε → Option σ} {events : List ε} {good : σ → Prop}

theorem Throughout.start {state : σ} (holds : Throughout step good state events) : good state := by
  cases events with
  | nil => exact holds
  | cons event events => exact holds.1

theorem Throughout.mono {stronger weaker : σ → Prop}
    (implies : ∀ state, stronger state → weaker state) :
    ∀ {state : σ}, Throughout step stronger state events → Throughout step weaker state events := by
  induction events with
  | nil => exact implies _
  | cons event events induction =>
    intro state holds
    exact ⟨implies state holds.1, fun next occurs => induction (holds.2 next occurs)⟩

variable {admitted : σ → ε → Prop} {invariant : σ → Prop}

/-- What admitted events keep holds throughout runs of admitted events. -/
theorem Each.throughout (kept : ∀ {state event next}, invariant state →
      admitted state event → step state event = some next → invariant next) :
    ∀ {state : σ}, Each step admitted state events → invariant state →
      Throughout step invariant state events := by
  induction events with
  | nil => exact fun _ => id
  | cons event events induction =>
    intro state each initially
    refine ⟨initially, ?_⟩
    intro next occurs
    rcases each next occurs with ⟨admits, rest⟩
    exact induction rest (kept initially admits occurs)

theorem Each.of_mem {admitted : ε → Prop} (all : ∀ event ∈ events, admitted event) :
    ∀ state : σ, Each step (fun _ => admitted) state events := by
  induction events with
  | nil => exact fun _ => trivial
  | cons event events induction =>
    intro state next _
    exact ⟨all event List.mem_cons_self,
      induction (fun other member => all other (List.mem_cons_of_mem _ member)) next⟩

variable (kept : ∀ {state event next}, invariant state → step state event = some next →
    invariant next)

include kept in
/-- Where an invariant admits every event, all events of a run are admitted. -/
theorem Each.of_invariant
    (admits : ∀ {state event next}, invariant state → step state event = some next →
      admitted state event) : ∀ {state : σ}, invariant state → Each step admitted state events := by
  induction events with
  | nil => exact fun _ => trivial
  | cons event events induction =>
    intro state holds next occurs
    exact ⟨admits holds occurs, induction (kept holds occurs)⟩

/-- What follows a run which is possible. -/
theorem Each.after {later : List ε} {final : σ} :
    ∀ {state : σ}, Each step admitted state (events ++ later) → run step state events = some final →
      Each step admitted final later := by
  induction events with
  | nil =>
    intro state each done
    cases done
    exact each
  | cons event events induction =>
    intro state each done
    rcases Option.bind_eq_some_iff.mp done with ⟨next, occurs, rest⟩
    exact induction (each next occurs).2 rest

include kept in
/-- What follows from an invariant holds throughout every run. -/
theorem throughout_of_invariant (implies : ∀ {state}, invariant state → good state)
    (events : List ε) : ∀ {state : σ}, invariant state → Throughout step good state events := by
  induction events with
  | nil => exact implies
  | cons event events induction =>
    intro state holds
    exact ⟨implies holds, fun next occurs => induction (kept holds occurs)⟩

/-! ## The events so far -/

/-- An event of one kind has occurred, and none of the other since. The latest event comes
first. -/
def Since (starts ends : ε → Prop) : List ε → Prop
  | [] => False
  | event :: earlier => starts event ∨ ¬ends event ∧ Since starts ends earlier

/-- The steps of a system which also keeps the events so far. -/
def recorded (step : σ → ε → Option σ) (state : List ε × σ) (event : ε) : Option (List ε × σ) :=
  (step state.2 event).map (event :: state.1, ·)

theorem throughout_recorded : ∀ {state : List ε × σ},
    Throughout (recorded step) (good ·.2) state events → Throughout step good state.2 events := by
  induction events with
  | nil => exact id
  | cons event events induction =>
    intro state throughout
    refine ⟨throughout.1, fun next occurs => ?_⟩
    exact induction (throughout.2 (event :: state.1, next) (by rw [recorded, occurs]; rfl))

end Coldsnap.Transitions
