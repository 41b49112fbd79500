import Coldsnap.Foundation.Transitions
import Mathlib.Data.List.Count
import Mathlib.Data.List.Nodup

/-! # The registry of checkpoint resources

`ResourceRegistry` of `integrations/core/coldsnap_core/checkpoint.py`. The lock is free while
resources are suspended and resumed, so other calls come between.
-/

namespace Coldsnap.Engine.Registry

open Transitions List

inductive Phase where
  | active
  | preparing
  | prepared
  | restoring
  | failed
deriving DecidableEq

structure Name where
  kind : String
  sequence : Nat
deriving DecidableEq

variable {ρ : Type}

/-- What the registry calls of a resource: a `prepare` that suspends it, and a `restore`. A
`prepare` that raises leaves it as it is. -/
inductive Call (ρ : Type) where
  | prepared (resource : ρ)
  | restored (resource : ρ) (succeeds : Bool)
deriving DecidableEq

/-- A call in flight, with its local lists. -/
inductive Activity (ρ : Type) where
  | idle
  | preparing (todo prepared : List (Name × ρ))
  | rollingBack (todo : List (Name × ρ)) (failures : Bool)
  | restoring (todo : List (Name × ρ))

structure State (ρ : Type) where
  resources : List (Name × ρ)
  prepared : List (Name × ρ)
  phase : Phase
  sequence : Nat
  activity : Activity ρ
  calls : List (Call ρ)

def initial : State ρ := ⟨[], [], .active, 0, .idle, []⟩

inductive Event (ρ : Type) where
  | register (resource : ρ) (kind : String) (conforms : Bool)
  | unregister (name : Name)
  | prepare
  | suspend (succeeds : Bool)
  | inspect (clean : Bool)
  | rollBack (succeeds : Bool)
  | restore
  | resume (succeeds : Bool)

/-- A call that raises under the lock changes nothing. -/
def step (state : State ρ) : Event ρ → Option (State ρ)
  | .register resource kind conforms =>
    if state.phase ≠ .active ∨ kind = "" ∨ conforms = false then some state
    else
      let sequence := state.sequence + 1
      some { state with
        sequence := sequence
        resources := state.resources ++ [(⟨kind, sequence⟩, resource)] }
  | .unregister name =>
    some { state with resources := state.resources.filter fun entry => entry.1 ≠ name }
  | .prepare =>
    if state.phase ≠ .active then some state
    else some { state with phase := .preparing, activity := .preparing state.resources [] }
  | .suspend succeeds =>
    match state.activity with
    | .preparing (entry :: todo) prepared =>
      if succeeds then
        some { state with
          activity := .preparing todo (prepared ++ [entry])
          calls := .prepared entry.2 :: state.calls }
      else some { state with activity := .rollingBack prepared.reverse false }
    | _ => none
  | .inspect clean =>
    match state.activity with
    | .preparing [] prepared =>
      if clean then
        some { state with prepared := prepared, phase := .prepared, activity := .idle }
      else some { state with activity := .rollingBack prepared.reverse false }
    | _ => none
  | .rollBack succeeds =>
    match state.activity with
    | .rollingBack (entry :: todo) failures =>
      some { state with
        activity := .rollingBack todo (failures || !succeeds)
        calls := .restored entry.2 succeeds :: state.calls }
    | .rollingBack [] failures =>
      some { state with phase := if failures then .failed else .active, activity := .idle }
    | _ => none
  | .restore =>
    if state.phase ≠ .prepared then some state
    else some { state with phase := .restoring, activity := .restoring state.prepared }
  | .resume succeeds =>
    match state.activity with
    | .restoring (entry :: todo) =>
      let calls := .restored entry.2 succeeds :: state.calls
      if succeeds then some { state with activity := .restoring todo, calls := calls }
      else some { state with phase := .failed, activity := .idle, calls := calls }
    | .restoring [] =>
      some { state with prepared := [], phase := .active, activity := .idle }
    | _ => none

/-! ## What the registry guarantees -/

def Broken (calls : List (Call ρ)) : Prop := ∃ resource, .restored resource false ∈ calls

variable {calls : List (Call ρ)} {resource : ρ}

@[grind =] theorem broken_prepared : Broken (.prepared resource :: calls) ↔ Broken calls := by
  simp [Broken]

@[grind =] theorem broken_restored {succeeds : Bool} :
    Broken (.restored resource succeeds :: calls) ↔ succeeds = false ∨ Broken calls := by
  cases succeeds <;> simp [Broken]

variable [DecidableEq ρ]

/-- How often the resource was suspended, and how often it was called to resume. -/
def suspensions (calls : List (Call ρ)) (resource : ρ) : Nat := calls.count (.prepared resource)

def resumptions (calls : List (Call ρ)) (resource : ρ) : Nat :=
  calls.count (.restored resource true) + calls.count (.restored resource false)

def WellCalled : List (Call ρ) → Prop
  | [] => True
  | .prepared _ :: earlier => WellCalled earlier
  | .restored resource _ :: earlier =>
    resumptions earlier resource < suspensions earlier resource ∧ WellCalled earlier

def Balanced (calls : List (Call ρ)) (held : List (Name × ρ)) : Prop :=
  ∀ resource, suspensions calls resource =
    resumptions calls resource + (held.map Prod.snd).count resource

def Usable (calls : List (Call ρ)) (resource : ρ) : Prop :=
  suspensions calls resource = calls.count (.restored resource true)

/-- The guarantees: of a registry that is prepared, of one that is active, also after a
preparation that was rolled back, of one where that failed, and of all calls. -/
structure Correct (state : State ρ) : Prop where
  prepared : state.phase = .prepared →
    (∀ entry ∈ state.resources, state.prepared.count entry = 1) ∧
      Balanced state.calls state.prepared
  active : state.phase = .active → ∀ resource, Usable state.calls resource
  failed : state.activity = .idle → (state.phase = .failed ↔ Broken state.calls)
  called : WellCalled state.calls

/-! ## The invariant -/

def State.held (state : State ρ) : List (Name × ρ) :=
  match state.activity with
  | .idle => if state.phase = .prepared then state.prepared else []
  | .preparing _ prepared => prepared
  | .rollingBack todo _ => todo
  | .restoring todo => todo

/-- The phase that belongs to a call in flight, and what it knows. -/
def State.Fits (state : State ρ) : Prop :=
  match state.activity with
  | .idle =>
    (state.phase = .active ∧ ¬Broken state.calls) ∨
    (state.phase = .prepared ∧ state.resources ⊆ state.prepared ∧ state.prepared.Nodup ∧
      ¬Broken state.calls) ∨
    (state.phase = .failed ∧ Broken state.calls)
  | .preparing todo prepared =>
    state.phase = .preparing ∧ state.resources ⊆ prepared ++ todo ∧ (prepared ++ todo).Nodup ∧
      ¬Broken state.calls
  | .rollingBack _ failures => state.phase = .preparing ∧ (failures = true ↔ Broken state.calls)
  | .restoring _ => state.phase = .restoring ∧ ¬Broken state.calls

structure Sound (state : State ρ) : Prop where
  nodup : state.resources.Nodup
  numbered : ∀ entry ∈ state.resources, entry.1.sequence ≤ state.sequence
  fits : state.Fits
  balance : state.phase ≠ .failed → Balanced state.calls state.held
  called : WellCalled state.calls

section Balanced

variable {calls : List (Call ρ)} {held : List (Name × ρ)} {entry : Name × ρ}

theorem Balanced.suspend (balanced : Balanced calls held) :
    Balanced (.prepared entry.2 :: calls) (held ++ [entry]) := by
  intro resource
  have before := balanced resource
  grind [suspensions, resumptions]

theorem Balanced.resume (balanced : Balanced calls (entry :: held)) (succeeds : Bool) :
    Balanced (.restored entry.2 succeeds :: calls) held := by
  intro resource
  have before := balanced resource
  simp only [suspensions, resumptions, map_cons, count_cons] at before ⊢
  cases succeeds with
  | true => grind
  | false => grind

theorem Balanced.called (balanced : Balanced calls (entry :: held)) (called : WellCalled calls)
    (succeeds : Bool) : WellCalled (.restored entry.2 succeeds :: calls) := by
  have before := balanced entry.2
  rw [map_cons, count_cons_self] at before
  exact ⟨by omega, called⟩

theorem Balanced.reverse (balanced : Balanced calls held) : Balanced calls held.reverse := by
  intro resource
  rw [map_reverse, count_reverse]
  exact balanced resource

end Balanced

variable {state next : State ρ} {event : Event ρ}

theorem Sound.correct (sound : Sound state) : Correct state := by
  rcases sound with ⟨_, _, fits, balance, called⟩
  unfold State.Fits at fits
  unfold State.held at balance
  constructor
  · intro phase
    have idle : state.activity = .idle := by grind
    simp only [idle, phase, if_true] at fits balance
    refine ⟨fun entry member => ?_, balance (by simp)⟩
    have once : state.prepared.Nodup := by grind
    have inside : entry ∈ state.prepared := by grind
    exact count_eq_one_of_mem once inside
  · intro phase resource
    have idle : state.activity = .idle := by grind
    simp only [idle, phase] at fits balance
    have even := balance (by simp) resource
    have none : .restored resource false ∉ state.calls := by grind [Broken]
    simp only [resumptions, count_eq_zero_of_not_mem none] at even
    simpa [Usable] using even
  · grind
  · exact called

theorem Sound.step (sound : Sound state) (occurs : Registry.step state event = some next) :
    Sound next := by
  have ⟨nodup, numbered, fits, balance, called⟩ := sound
  unfold State.Fits at fits
  unfold State.held at balance
  cases event <;> simp only [Registry.step] at occurs
  case unregister name =>
    cases occurs
    exact ⟨nodup.filter _, by grind, by grind [State.Fits], balance, called⟩
  case register resource kind conforms =>
    split_ifs at occurs with refused
    · cases occurs
      exact sound
    · cases occurs
      exact ⟨by grind, by grind, by grind [State.Fits], balance, called⟩
  case prepare =>
    split_ifs at occurs with refused
    · cases occurs
      exact sound
    · cases occurs
      exact ⟨nodup, numbered, by grind [State.Fits], by grind [State.held], called⟩
  case suspend succeeds =>
    split at occurs
    · next entry todo prepared shape =>
        simp only [shape] at fits balance
        have balanced := balance (by grind)
        split_ifs at occurs
        · cases occurs
          exact ⟨nodup, numbered, by grind [State.Fits], fun _ => balanced.suspend, called⟩
        · cases occurs
          exact ⟨nodup, numbered, by grind [State.Fits], fun _ => balanced.reverse, called⟩
    · contradiction
  case inspect clean =>
    split at occurs
    · next prepared shape =>
        simp only [shape] at fits balance
        have balanced := balance (by grind)
        split_ifs at occurs
        · cases occurs
          exact ⟨nodup, numbered, by grind [State.Fits], fun _ => balanced, called⟩
        · cases occurs
          exact ⟨nodup, numbered, by grind [State.Fits], fun _ => balanced.reverse, called⟩
    · contradiction
  case rollBack succeeds =>
    split at occurs
    · next entry todo failures shape =>
        simp only [shape] at fits balance
        have balanced := balance (by grind)
        cases occurs
        exact ⟨nodup, numbered, by grind [State.Fits], fun _ => balanced.resume succeeds,
          balanced.called called succeeds⟩
    · next failures shape =>
        cases occurs
        exact ⟨nodup, numbered, by grind [State.Fits], by grind [State.held], called⟩
    · contradiction
  case restore =>
    split_ifs at occurs with refused
    · cases occurs
      exact sound
    · cases occurs
      exact ⟨nodup, numbered, by grind [State.Fits], by grind [State.held], called⟩
  case resume succeeds =>
    split at occurs
    · next entry todo shape =>
        simp only [shape] at fits balance
        have balanced := balance (by grind)
        have called := balanced.called called succeeds
        split_ifs at occurs with success
        · cases occurs
          exact ⟨nodup, numbered, by grind [State.Fits], fun _ => balanced.resume succeeds, called⟩
        · cases occurs
          exact ⟨nodup, numbered, by grind [State.Fits], by simp, called⟩
    · next shape =>
        cases occurs
        exact ⟨nodup, numbered, by grind [State.Fits], by grind [State.held], called⟩
    · contradiction

/-- Through every interleaving of calls the registry keeps its guarantees. -/
theorem guaranteed_throughout (events : List (Event ρ)) :
    Throughout Registry.step Correct initial events := by
  have start : Sound (initial : State ρ) := by
    constructor
    all_goals simp [initial, State.Fits, State.held, Balanced, suspensions, resumptions, WellCalled,
      Broken]
  exact throughout_of_invariant Sound.step Sound.correct events start

/-- A resource which is registered twice is suspended twice. -/
theorem suspended_twice :
    (run Registry.step (initial : State Nat)
        [.register 7 "ring" true, .register 7 "ring" true, .prepare, .suspend true, .suspend true,
          .inspect true]).map (fun state => (state.phase, state.calls)) =
      some (.prepared, [.prepared 7, .prepared 7]) := by
  decide

end Coldsnap.Engine.Registry
