import Coldsnap.Foundation.Intervals
import Mathlib.Algebra.BigOperators.Group.List.Basic

/-! # Sweeping over the ends of ranges

A sweep visits the ends of some ranges in ascending order and keeps how many of
them are open. The gaps between successive ends which it visits with a range
open cover what the ranges cover.
-/

namespace Coldsnap.Intervals

open List

variable {α : Type*} [LinearOrder α] {points : List α} {first : α}

theorem head_le (ascending : (first :: points).Pairwise (· < ·)) :
    ∀ point ∈ first :: points, first ≤ point :=
  forall_mem_cons.mpr ⟨le_rfl, fun _ later => le_of_lt (rel_of_pairwise_cons ascending later)⟩

def steps : List α → List (α × α)
  | first :: second :: rest => (first, second) :: steps (second :: rest)
  | _ => []

omit [LinearOrder α] in
theorem steps_mem {step : α × α} (member : step ∈ steps points) :
    step.1 ∈ points ∧ step.2 ∈ points := by
  fun_induction steps points with
  | case1 first second rest induction =>
    rcases mem_cons.mp member with rfl | member
    · exact ⟨mem_cons_self, mem_cons_of_mem _ mem_cons_self⟩
    · have found := induction member
      exact ⟨mem_cons_of_mem _ found.1, mem_cons_of_mem _ found.2⟩
  | case2 => cases member

theorem steps_lt (ascending : points.Pairwise (· < ·)) {step : α × α} (member : step ∈ steps points)
    : step.1 < step.2 := by
  fun_induction steps points with
  | case1 first second rest induction =>
    rcases mem_cons.mp member with rfl | member
    · exact rel_of_pairwise_cons ascending mem_cons_self
    · exact induction (pairwise_cons.mp ascending).2 member
  | case2 => cases member

/-- The ends of ranges: each one opens at its start and closes at its stop. -/
def edges (ranges : List (α × α)) : List (α × Int) :=
  ranges.flatMap fun range => [(range.1, 1), (range.2, -1)]

/-- The sum of the changes up to and including a point. -/
def balance (changes : List (α × Int)) (point : α) : Int :=
  ((changes.filter fun change => change.1 ≤ point).map Prod.snd).sum

theorem balance_append (left right : List (α × Int)) (point : α) :
    balance (left ++ right) point = balance left point + balance right point := by
  simp [balance]

/-- As many ranges are open at a point as contain it. -/
theorem balance_edges {ranges : List (α × α)} (ordered : ∀ range ∈ ranges, range.1 ≤ range.2)
    (point : α) : balance (edges ranges) point = coverCount ranges point := by
  induction ranges with
  | nil => rfl
  | cons range ranges induction =>
    have rest := induction (forall_mem_cons.mp ordered).2
    have inOrder := ordered range mem_cons_self
    have split : edges (range :: ranges) = [(range.1, 1), (range.2, -1)] ++ edges ranges := rfl
    rw [split, balance_append, rest, coverCount_cons, coverCount_singleton]
    by_cases opened : range.1 ≤ point
    · by_cases closed : range.2 ≤ point
      · simp [balance, Contains, opened, closed, not_lt.mpr closed]
      · simp [balance, Contains, opened, closed, not_le.mp closed]
    · have notClosed : ¬range.2 ≤ point := fun closed => opened (le_trans inOrder closed)
      simp [balance, Contains, opened, notClosed]

variable {changes : List (α × Int)} {early late : α}

/-- Nothing changes between two points when no change lies there. -/
theorem balance_eq (ordered : early ≤ late)
    (still : ∀ change ∈ changes, change.1 ≤ late → change.1 ≤ early) :
    balance changes late = balance changes early := by
  unfold balance
  congr 2
  refine filter_congr fun change member => ?_
  have both : change.1 ≤ late ↔ change.1 ≤ early :=
    ⟨still change member, fun before => le_trans before ordered⟩
  simp [both]

/-- The changes which are due at a key, in their order. -/
def arriving {κ ν : Type*} [DecidableEq κ] (changes : List (κ × ν)) (key : κ) : List ν :=
  (changes.filter fun change => change.1 = key).map Prod.snd

/-- From one point to the next the balance changes by what arrives there. -/
theorem balance_step (ordered : early < late)
    (between : ∀ change ∈ changes, change.1 ≤ late → change.1 ≤ early ∨ change.1 = late) :
    balance changes late = balance changes early + (arriving changes late).sum := by
  induction changes with
  | nil => rfl
  | cons change changes induction =>
    have rest := induction (forall_mem_cons.mp between).2
    have here := between change mem_cons_self
    simp only [balance, arriving, filter_cons] at rest ⊢
    rcases le_or_gt change.1 late with reached | later
    · rcases here reached with passed | arrived
      · have different : ¬change.1 = late := (lt_of_le_of_lt passed ordered).ne
        simp only [reached, passed, different, decide_true, decide_false, if_true,
          Bool.false_eq_true, if_false, map_cons, sum_cons]
        omega
      · have ahead : ¬late ≤ early := ordered.not_ge
        simp only [arrived, ahead, le_refl, decide_true, decide_false, if_true,
          Bool.false_eq_true, if_false, map_cons, sum_cons]
        omega
    · have unreached := not_le.mpr later
      have ahead := not_le.mpr (ordered.trans later)
      have different : ¬change.1 = late := later.ne'
      simpa only [unreached, ahead, different, decide_false, Bool.false_eq_true, if_false]
        using rest

/-- Each of the changes in turn leaves a value at zero or one. -/
def Toggles : Int → List Int → Prop
  | _, [] => True
  | value, change :: changes =>
    (value + change = 0 ∨ value + change = 1) ∧ Toggles (value + change) changes

theorem balance_ahead (ahead : ∀ change ∈ changes, early < change.1) :
    balance changes early = 0 := by
  have none : changes.filter (fun change => change.1 ≤ early) = [] :=
    filter_eq_nil_iff.mpr fun change member => by simpa using ahead change member
  rw [balance, none]
  rfl

theorem edges_start_le {range : α × α} {ranges : List (α × α)}
    (positive : ∀ range ∈ ranges, range.1 < range.2)
    (before : ∀ later ∈ ranges, Before range later) :
    ∀ edge ∈ edges ranges, range.2 ≤ edge.1 := by
  intro edge member
  rcases mem_flatMap.mp member with ⟨later, listed, found⟩
  have starts : range.2 ≤ later.1 := before later listed
  rcases mem_pair.mp found with rfl | rfl
  · exact starts
  · exact starts.trans (positive later listed).le

/-- Ranges which follow each other open and close one at a time: the changes at
the next point are made one after another and never leave two of them open. -/
theorem toggles_edges {ranges : List (α × α)} (positive : ∀ range ∈ ranges, range.1 < range.2)
    (ascending : ranges.Pairwise Before) (ordered : early < late)
    (between : ∀ edge ∈ edges ranges, edge.1 ≤ early ∨ late ≤ edge.1) :
    Toggles (balance (edges ranges) early) (arriving (edges ranges) late) := by
  unfold arriving
  induction ranges with
  | nil => trivial
  | cons range ranges induction =>
    have split : edges (range :: ranges) = [(range.1, 1), (range.2, -1)] ++ edges ranges := rfl
    rw [split] at between ⊢
    rcases pairwise_cons.mp ascending with ⟨first, later⟩
    rcases forall_mem_cons.mp positive with ⟨opens, positiveRest⟩
    have rest := induction positiveRest later fun edge member =>
      between edge (mem_append_right _ member)
    have stops := between (range.2, -1) (by simp)
    have starts := between (range.1, 1) (by simp)
    have follow := edges_start_le positiveRest first
    rw [balance_append, filter_append, map_append]
    rcases lt_trichotomy range.2 late with closed | closes | open_
    · -- The range is closed already.
      have stopped := stops.resolve_right (not_le.mpr closed)
      have started : range.1 ≤ early := opens.le.trans stopped
      simpa [balance, stopped, started, closed.ne, (opens.trans closed).ne] using rest
    · -- The range closes here, and no later one is open yet.
      have before : range.1 < late := closes ▸ opens
      have started := starts.resolve_right (not_le.mpr before)
      have empty := balance_ahead fun edge member =>
        lt_of_lt_of_le ordered (closes ▸ follow edge member)
      rw [empty] at rest ⊢
      simpa [Toggles, balance, closes, started, before.ne, ordered.not_ge] using rest
    · -- Nothing of the later ranges happens here.
      have empty := balance_ahead fun edge member =>
        lt_of_lt_of_le (ordered.trans open_) (follow edge member)
      have none : (edges ranges).filter (fun edge => edge.1 = late) = [] :=
        filter_eq_nil_iff.mpr fun edge member => by
          simpa using (lt_of_lt_of_le open_ (follow edge member)).ne'
      rw [empty, none]
      by_cases here : range.1 = late
      · simp [Toggles, balance, here, open_.ne', ordered.not_ge, (ordered.trans open_).not_ge]
      · simp [Toggles, here, open_.ne']

/-- The steps which start where `active` holds cover the points where it holds,
if it only changes at the points swept. -/
theorem coverCount_steps (active : α → Bool) :
    ∀ {points : List α} {start : α}, (start :: points).Pairwise (· < ·) →
      (∀ early ∈ start :: points, ∀ late, early ≤ late →
        (∀ point ∈ start :: points, point ≤ late → point ≤ early) → active late = active early) →
      ∀ point, coverCount ((steps (start :: points)).filter fun step => active step.1) point =
        if start ≤ point ∧ (∃ last ∈ start :: points, point < last) ∧ active point then 1
          else 0 := by
  intro points
  induction points with
  | nil =>
    intro start _ _ point
    have outside : ¬(start ≤ point ∧ (∃ last ∈ [start], point < last) ∧ active point) := by
      rintro ⟨reached, before, _⟩
      simp only [mem_singleton, exists_eq_left] at before
      exact absurd before (not_lt.mpr reached)
    rw [if_neg outside]
    rfl
  | cons second rest induction =>
    intro start ascending still point
    rcases pairwise_cons.mp ascending with ⟨smallest, restAscending⟩
    have restStill : ∀ early ∈ second :: rest, ∀ late, early ≤ late →
        (∀ point ∈ second :: rest, point ≤ late → point ≤ early) → active late = active early := by
      intro early member late ordered between
      apply still early (mem_cons_of_mem _ member) late ordered
      exact forall_mem_cons.mpr ⟨fun _ => le_of_lt (smallest early member), between⟩
    have tail := induction restAscending restStill point
    have positive := smallest second mem_cons_self
    have opens : coverCount ((steps (start :: second :: rest)).filter
        fun step => active step.1) point =
        coverCount (if active start then [(start, second)] else []) point +
          coverCount ((steps (second :: rest)).filter fun step => active step.1) point := by
      rw [steps, filter_cons]
      split
      · exact coverCount_cons _ _ _
      · exact (zero_add _).symm
    rw [opens, tail]
    rcases lt_or_ge point second with before | after
    · -- Only the first step can contain the point.
      have same : start ≤ point → active point = active start := by
        intro reached
        apply still start mem_cons_self point reached
        refine forall_mem_cons.mpr ⟨fun _ => le_rfl, fun other member passed => ?_⟩
        exact absurd (lt_of_lt_of_le before (head_le restAscending other member))
          (not_lt.mpr passed)
      by_cases reached : start ≤ point
      · cases on : active start <;>
          simp [on, same reached, reached, not_le.mpr before,
            coverCount_singleton, Contains, before]
      · cases on : active start <;>
          simp [reached, not_le.mpr before, coverCount_singleton, Contains]
    · have passed : ¬Contains (start, second) point :=
        fun inside => absurd inside.2 (not_lt.mpr after)
      have reached : start ≤ point := le_trans (le_of_lt positive) after
      have sameLast : (∃ last ∈ start :: second :: rest, point < last) ↔
          ∃ last ∈ second :: rest, point < last := by
        rw [exists_mem_cons_iff, or_iff_right (not_lt.mpr reached)]
      have first : coverCount (if active start then [(start, second)] else []) point = 0 := by
        split
        · rw [coverCount_singleton, if_neg passed]
        · rfl
      rw [first, zero_add]
      simp only [sameLast, after, reached, true_and]

end Coldsnap.Intervals
