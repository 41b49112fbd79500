import Mathlib.Algebra.Order.Ring.Int
import Mathlib.Data.Int.ConditionallyCompleteOrder
import Mathlib.Data.List.Sublists

/-! # Linearization by critical sections

Operations are invoked, run critical sections one after the other, and respond.
A section which is followed by another one of its operation leaves the state
alone. Then the last sections of the operations, in the order in which they ran,
are a sequential history with the same answers, and that order never contradicts
real time.
-/

namespace Coldsnap.Linearization

open List

variable {ρ ω ξ σ : Type}

/-- One critical section: the operation it belongs to, what was asked, what came of
it. -/
structure Step (ρ ω : Type) where
  number : Nat
  request : ρ
  outcome : ω

/-- What an observer sees, in real time. -/
inductive Moment (ρ ω ξ : Type) where
  | invoked (number : Nat)
  | ran (step : Step ρ ω)
  | responded (number : Nat) (response : ξ)

def Moment.step : Moment ρ ω ξ → Option (Step ρ ω)
  | .ran step => some step
  | _ => none

def steps (history : List (Moment ρ ω ξ)) : List (Step ρ ω) := history.filterMap Moment.step

variable {history : List (Moment ρ ω ξ)} {step : Step ρ ω}

theorem mem_steps : step ∈ steps history ↔ .ran step ∈ history := by
  unfold steps
  rw [mem_filterMap]
  constructor
  · rintro ⟨moment, member, equal⟩
    cases moment with
    | invoked number => cases equal
    | ran other => cases equal; exact member
    | responded number response => cases equal
  · exact fun member => ⟨_, member, rfl⟩

/-- The steps, taken one after the other, have these outcomes and end in `final`. -/
def Replays (apply : σ → ρ → ω × σ) : σ → List (Step ρ ω) → σ → Prop
  | state, [], final => state = final
  | state, step :: rest, final =>
    (apply state step.request).1 = step.outcome ∧
      Replays apply (apply state step.request).2 rest final

variable {apply : σ → ρ → ω × σ} {first second : List (Step ρ ω)}

theorem Replays.append :
    ∀ {start middle final : σ}, Replays apply start first middle →
      Replays apply middle second final → Replays apply start (first ++ second) final := by
  induction first with
  | nil => rintro start middle final rfl rest; exact rest
  | cons step rest induction =>
    intro start middle final replays later
    exact ⟨replays.1, induction replays.2 later⟩

theorem Replays.split :
    ∀ {start final : σ}, Replays apply start (first ++ second) final →
      ∃ middle, Replays apply start first middle ∧ Replays apply middle second final := by
  induction first with
  | nil => exact fun replays => ⟨_, rfl, replays⟩
  | cons step rest induction =>
    intro start final replays
    rcases induction replays.2 with ⟨middle, before, after⟩
    exact ⟨middle, ⟨replays.1, before⟩, after⟩

/-- Of several sections of one operation only the last one counts. -/
def lastSteps : List (Step ρ ω) → List (Step ρ ω)
  | [] => []
  | step :: rest =>
    if step.number ∈ rest.map Step.number then lastSteps rest else step :: lastSteps rest

variable (all : List (Step ρ ω))

theorem lastSteps_sublist : (lastSteps all).Sublist all := by
  induction all with
  | nil => exact Sublist.slnil
  | cons step rest induction =>
    unfold lastSteps
    split
    · exact induction.cons step
    · exact induction.cons_cons step

theorem lastSteps_nodup : ((lastSteps all).map Step.number).Nodup := by
  induction all with
  | nil => exact nodup_nil
  | cons step rest induction =>
    unfold lastSteps
    split
    · exact induction
    · rename_i last
      apply nodup_cons.mpr
      refine ⟨fun member => last ?_, induction⟩
      exact ((lastSteps_sublist rest).map Step.number).subset member

theorem mem_lastSteps {earlier later : List (Step ρ ω)}
    (last : step.number ∉ later.map Step.number) : step ∈ lastSteps (earlier ++ step :: later) := by
  induction earlier with
  | nil =>
    rw [nil_append, lastSteps, if_neg last]
    exact mem_cons_self
  | cons first rest induction =>
    rw [cons_append, lastSteps]
    split
    · exact induction
    · exact mem_cons_of_mem _ induction

theorem lastSteps_append (first second : List (Step ρ ω)) :
    lastSteps (first ++ second) =
      (lastSteps first).filter (fun step => step.number ∉ second.map Step.number) ++
        lastSteps second := by
  induction first with
  | nil => rfl
  | cons step rest induction =>
    rw [cons_append, lastSteps, lastSteps, map_append]
    by_cases later : step.number ∈ rest.map Step.number
    · rw [if_pos (mem_append_left _ later), if_pos later, induction]
    · rw [if_neg later]
      by_cases second_has : step.number ∈ second.map Step.number
      · rw [if_pos (mem_append_right _ second_has), induction,
          filter_cons_of_neg (by simpa using second_has)]
      · have neither : step.number ∉ rest.map Step.number ++ second.map Step.number := by
          rw [mem_append]
          exact fun either => either.elim later second_has
        rw [if_neg neither, induction, filter_cons_of_pos (by simpa using second_has), cons_append]

/-- A step which is followed by another one of its operation changed nothing. -/
def Silent (apply : σ → ρ → ω × σ) (all : List (Step ρ ω)) : Prop :=
  ∀ earlier step later, all = earlier ++ step :: later →
    step.number ∈ later.map Step.number →
    ∀ state, (apply state step.request).1 = step.outcome → (apply state step.request).2 = state

theorem Silent.tail {rest : List (Step ρ ω)} (silent : Silent apply (step :: rest)) :
    Silent apply rest :=
  fun earlier other later split => silent (step :: earlier) other later (by rw [split]; rfl)

variable {all : List (Step ρ ω)}

theorem Replays.lastSteps :
    ∀ {start final : σ}, Silent apply all → Replays apply start all final →
      Replays apply start (lastSteps all) final := by
  induction all with
  | nil => intro start final _ replays; exact replays
  | cons step rest induction =>
    intro start final silent replays
    have continued := induction silent.tail replays.2
    unfold Linearization.lastSteps
    split
    · rename_i later
      rwa [silent [] step rest rfl later start replays.1] at continued
    · exact ⟨replays.1, continued⟩

theorem snoc_split {α : Type} {values earlier later : List α} {last value : α}
    (split : values ++ [last] = earlier ++ value :: later) :
    (earlier = values ∧ value = last ∧ later = []) ∨
      ∃ rest, later = rest ++ [last] ∧ values = earlier ++ value :: rest := by
  rcases eq_nil_or_concat later with rfl | ⟨rest, end', rfl⟩
  · rcases append_inj' split rfl with ⟨rfl, same⟩
    cases same
    exact .inl ⟨rfl, rfl, rfl⟩
  · rw [concat_eq_append, ← cons_append, ← append_assoc] at split
    rcases append_inj' split rfl with ⟨shorter, same⟩
    cases same
    exact .inr ⟨rest, concat_eq_append, shorter⟩

theorem Silent.snoc {last : Step ρ ω} (silent : Silent apply all)
    (quiet : ∀ step ∈ all, step.number = last.number → ∀ state,
      (apply state step.request).1 = step.outcome → (apply state step.request).2 = state) :
    Silent apply (all ++ [last]) := by
  intro earlier step later split again
  rcases snoc_split split with ⟨_, _, rfl⟩ | ⟨rest, rfl, whole⟩
  · cases again
  · rw [map_append, mem_append, map_singleton, mem_singleton] at again
    rcases again with early | late
    · exact silent earlier step rest whole early
    · apply quiet step _ late
      rw [whole]
      exact mem_append_right _ mem_cons_self

def LastOutcome (all : List (Step ρ ω)) (number : Nat) (outcome : ω) : Prop :=
  ∃ earlier step later, all = earlier ++ step :: later ∧ step.number = number ∧
    number ∉ later.map Step.number ∧ step.outcome = outcome

theorem LastOutcome.snoc {number : Nat} {outcome : ω} {last : Step ρ ω}
    (ended : LastOutcome all number outcome) (other : last.number ≠ number) :
    LastOutcome (all ++ [last]) number outcome := by
  rcases ended with ⟨earlier, step, later, rfl, same, final, equal⟩
  refine ⟨earlier, step, later ++ [last], by simp, same, ?_, equal⟩
  rw [map_append, mem_append, map_singleton, mem_singleton]
  exact fun either => either.elim final fun late => other late.symm

/-- Sections run between the invocation and the response of their operation, and an
operation is invoked once. -/
structure Orderly (history : List (Moment ρ ω ξ)) : Prop where
  started : ∀ earlier step later, history = earlier ++ .ran step :: later →
    .invoked step.number ∈ earlier ∧ ∀ response, .responded step.number response ∉ earlier
  once : ∀ earlier number later, history = earlier ++ .invoked number :: later →
    .invoked number ∉ earlier

theorem Orderly.invoked (orderly : Orderly history) (member : step ∈ steps history) :
    .invoked step.number ∈ history := by
  rcases append_of_mem (mem_steps.mp member) with ⟨earlier, later, whole⟩
  have begun := (orderly.started earlier step later whole).1
  rw [whole]
  exact mem_append_left _ begun

theorem Orderly.snoc {moment : Moment ρ ω ξ} (orderly : Orderly history)
    (ran : ∀ step, moment = .ran step →
      .invoked step.number ∈ history ∧ ∀ response, .responded step.number response ∉ history)
    (invoked : ∀ number, moment = .invoked number → .invoked number ∉ history) :
    Orderly (history ++ [moment]) where
  started := by
    intro earlier step later split
    rcases snoc_split split with ⟨rfl, same, _⟩ | ⟨rest, _, whole⟩
    · exact ran step same.symm
    · exact orderly.started earlier step rest whole
  once := by
    intro earlier number later split
    rcases snoc_split split with ⟨rfl, same, _⟩ | ⟨rest, _, whole⟩
    · exact invoked number same.symm
    · exact orderly.once earlier number rest whole

/-- A sequential history which explains a concurrent one: it consists of critical
sections which really ran, at most one for each operation; replayed one after the
other they have the same outcomes and lead to the same state; every response
comes from the section of its operation; and an operation which responded before
another one was invoked stands before it. -/
structure Linearizes (apply : σ → ρ → ω × σ) (answers : ω → ξ → Prop) (initial : σ)
    (history : List (Moment ρ ω ξ)) (final : σ) (order : List (Step ρ ω)) : Prop where
  happened : order.Sublist (steps history)
  once : (order.map Step.number).Nodup
  replays : Replays apply initial order final
  answered : ∀ number response, .responded number response ∈ history →
    ∃ step ∈ order, step.number = number ∧ answers step.outcome response
  realTime : ∀ earlier later first second response, history = earlier ++ later →
    .responded first response ∈ earlier → .invoked second ∈ later →
    ∀ left ∈ order, ∀ right ∈ order, left.number = first → right.number = second →
      ∃ before after, order = before ++ after ∧ left ∈ before ∧ right ∈ after

theorem steps_append (first second : List (Moment ρ ω ξ)) :
    steps (first ++ second) = steps first ++ steps second := filterMap_append

variable {earlier later : List (Moment ρ ω ξ)}

/-- After its response an operation runs no section. -/
theorem Orderly.not_ran_later (orderly : Orderly (earlier ++ later)) {response : ξ}
    (responded : .responded step.number response ∈ earlier) : .ran step ∉ later := by
  intro member
  rcases append_of_mem member with ⟨first, rest, split⟩
  have whole : earlier ++ later = (earlier ++ first) ++ .ran step :: rest := by
    rw [split, append_assoc]
  exact (orderly.started _ step rest whole).2 response (mem_append_left _ responded)

/-- Before its invocation an operation runs no section. -/
theorem Orderly.not_ran_earlier (orderly : Orderly (earlier ++ later))
    (invoked : .invoked step.number ∈ later) : .ran step ∉ earlier := by
  intro member
  rcases append_of_mem member with ⟨first, rest, split⟩
  have whole : earlier ++ later = first ++ .ran step :: (rest ++ later) := by
    rw [split, append_assoc, cons_append]
  have begun := (orderly.started first step (rest ++ later) whole).1
  rcases append_of_mem invoked with ⟨between, after, splitLater⟩
  have again : earlier ++ later = (earlier ++ between) ++ .invoked step.number :: after := by
    rw [splitLater, append_assoc]
  apply orderly.once _ _ after again
  apply mem_append_left
  rw [split]
  exact mem_append_left _ begun

/-- The last sections linearize an orderly history whose other sections are silent. -/
theorem linearizes {answers : ω → ξ → Prop} {initial final : σ} (orderly : Orderly history)
    (silent : Silent apply (steps history)) (replays : Replays apply initial (steps history) final)
    (answered : ∀ number response, .responded number response ∈ history →
      ∃ outcome, LastOutcome (steps history) number outcome ∧ answers outcome response) :
    Linearizes apply answers initial history final (lastSteps (steps history)) where
  happened := lastSteps_sublist _
  once := lastSteps_nodup _
  replays := replays.lastSteps silent
  answered := by
    intro number response responded
    rcases answered number response responded with
      ⟨_, ⟨earlier, step, later, split, equal, last, rfl⟩, fits⟩
    refine ⟨step, ?_, equal, fits⟩
    rw [split]
    exact mem_lastSteps (equal ▸ last)
  realTime := by
    rintro earlier later first second response rfl responded invoked left leftMember right
      rightMember rfl rfl
    rw [steps_append, lastSteps_append] at leftMember rightMember ⊢
    refine ⟨_, _, rfl, ?_, ?_⟩
    · rcases mem_append.mp leftMember with here | there
      · exact here
      · have ran := mem_steps.mp ((lastSteps_sublist _).subset there)
        exact absurd ran (orderly.not_ran_later responded)
    · rcases mem_append.mp rightMember with there | here
      · have ran := mem_steps.mp ((lastSteps_sublist _).subset (mem_filter.mp there).1)
        exact absurd ran (orderly.not_ran_earlier invoked)
      · exact here

end Coldsnap.Linearization
