import Mathlib.Algebra.Order.Ring.Int
import Mathlib.Data.Int.ConditionallyCompleteOrder
import Mathlib.Data.List.Sort
import Mathlib.Data.List.Count

/-! # Half-open ranges and exact tilings

Ranges are pairs `(start, stop)` over a linear order. `coverCount` says how
often a point is covered, so "every byte exactly once" is `coverCount = 1`.
The cursor walk is the loop which validators run over a sorted list of ranges.
-/

namespace Coldsnap.Intervals

open List

variable {α : Type*} [LinearOrder α]

/-- The half-open range `[start, stop)` contains `point`. -/
def Contains (range : α × α) (point : α) : Prop :=
  range.1 ≤ point ∧ point < range.2

instance (range : α × α) (point : α) : Decidable (Contains range point) :=
  inferInstanceAs (Decidable (_ ∧ _))

/-- How many of the ranges contain `point`. -/
def coverCount (ranges : List (α × α)) (point : α) : Nat :=
  ranges.countP fun range => decide (Contains range point)

@[simp] theorem coverCount_nil (point : α) : coverCount ([] : List (α × α)) point = 0 := rfl

@[simp] theorem coverCount_append (left right : List (α × α)) (point : α) :
    coverCount (left ++ right) point = coverCount left point + coverCount right point := by
  simp [coverCount]

theorem coverCount_cons (range : α × α) (ranges : List (α × α)) (point : α) :
    coverCount (range :: ranges) point = coverCount [range] point + coverCount ranges point :=
  coverCount_append [range] ranges point

theorem coverCount_singleton (range : α × α) (point : α) :
    coverCount [range] point = if Contains range point then 1 else 0 := by
  simp [coverCount, countP_cons]

variable {stop : α}

theorem coverCount_empty {start : α} (empty : stop ≤ start) (point : α) :
    coverCount [(start, stop)] point = 0 := by
  rw [coverCount_singleton, if_neg]
  intro inside
  exact absurd (lt_of_le_of_lt inside.1 inside.2) (not_lt.mpr empty)

theorem coverCount_split {start middle : α} (left : start ≤ middle) (right : middle ≤ stop)
    (point : α) :
    coverCount [(start, stop)] point =
      coverCount [(start, middle)] point + coverCount [(middle, stop)] point := by
  simp only [coverCount_singleton, Contains]
  rcases lt_or_ge point middle with before | after
  · have beforeStop : point < stop := lt_of_lt_of_le before right
    simp [before, beforeStop, not_le.mpr before]
  · have started : start ≤ point := le_trans left after
    simp [after, started, not_lt.mpr after]

variable {left right : List (α × α)}

theorem coverCount_perm (perm : left.Perm right) (point : α)
    : coverCount left point = coverCount right point :=
  perm.countP_eq _

theorem coverCount_flatMap {β : Type*} (items : List β) (ranges : β → List (α × α)) (point : α) :
    coverCount (items.flatMap ranges) point =
      (items.map fun item => coverCount (ranges item) point).sum :=
  countP_flatMap

variable {ranges : List (α × α)} {point : α}

theorem coverCount_eq_zero (outside : ∀ range ∈ ranges, ¬Contains range point) :
    coverCount ranges point = 0 := by
  rw [coverCount, countP_eq_zero]
  intro range member
  simpa using outside range member

/-- Each range must be non-empty and start where the previous one stopped.
The result is the final cursor. -/
def walk : α → List (α × α) → Option α
  | cursor, [] => some cursor
  | cursor, range :: rest =>
    if range.1 = cursor ∧ cursor < range.2 then walk range.2 rest else none

theorem walk_cons {cursor : α} {range : α × α} {rest : List (α × α)}
    (walked : walk cursor (range :: rest) = some stop) :
    range.1 = cursor ∧ cursor < range.2 ∧ walk range.2 rest = some stop := by
  rw [walk] at walked
  split at walked
  · next holds => exact ⟨holds.1, holds.2, walked⟩
  · cases walked

theorem walk_le : ∀ {start stop : α}, walk start ranges = some stop → start ≤ stop := by
  induction ranges with
  | nil =>
    intro start stop walked
    cases walked
    exact le_refl start
  | cons range rest induction =>
    intro start stop walked
    rcases walk_cons walked with ⟨_, positive, walkedRest⟩
    exact le_trans (le_of_lt positive) (induction walkedRest)

/-- A completed walk covers the same points as the range between its ends. -/
theorem coverCount_of_walk (point : α) :
    ∀ {start stop : α}, walk start ranges = some stop →
      coverCount ranges point = coverCount [(start, stop)] point := by
  induction ranges with
  | nil =>
    intro start stop walked
    cases walked
    rw [coverCount_nil, coverCount_empty (le_refl start)]
  | cons range rest induction =>
    intro start stop walked
    rcases walk_cons walked with ⟨rfl, positive, walkedRest⟩
    rw [coverCount_cons, induction walkedRest,
      coverCount_split (le_of_lt positive) (walk_le walkedRest)]

theorem walk_append :
    ∀ {start middle stop : α}, walk start left = some middle →
      walk middle right = some stop → walk start (left ++ right) = some stop := by
  induction left with
  | nil =>
    intro start middle stop walkedLeft walkedRight
    cases walkedLeft
    exact walkedRight
  | cons range rest induction =>
    intro start middle stop walkedLeft walkedRight
    rcases walk_cons walkedLeft with ⟨starts, positive, walkedRest⟩
    rw [cons_append, walk, if_pos ⟨starts, positive⟩]
    exact induction walkedRest walkedRight

theorem contains_of_coverCount (covered : coverCount ranges point ≠ 0)
    : ∃ range ∈ ranges, Contains range point := by
  by_contra none
  exact covered (coverCount_eq_zero fun range member contains => none ⟨range, member, contains⟩)

/-- Ranges sorted by their starts which cover a span once are walked from one end
of it to the other. -/
theorem walk_of_coverCount :
    ∀ {start stop : α}, start ≤ stop → ranges.Pairwise (fun left right => left.1 ≤ right.1) →
      (∀ range ∈ ranges, range.1 < range.2) →
      (∀ point, coverCount ranges point = coverCount [(start, stop)] point) →
        walk start ranges = some stop := by
  induction ranges with
  | nil =>
    intro start stop ordered _ _ covers
    have empty := covers start
    rw [coverCount_nil, coverCount_singleton] at empty
    have done : ¬start < stop := by
      intro positive
      rw [if_pos ⟨le_refl start, positive⟩] at empty
      cases empty
    rw [walk, le_antisymm ordered (not_lt.mp done)]
  | cons range rest induction =>
    intro start stop ordered sorted positive covers
    have nonempty := positive range mem_cons_self
    -- The first range lies in the span, and nothing else reaches the start of it.
    have within : Contains (start, stop) range.1 := by
      have here := covers range.1
      rw [coverCount_cons, coverCount_singleton, coverCount_singleton,
        if_pos ⟨le_refl range.1, nonempty⟩] at here
      by_contra outside
      rw [if_neg outside] at here
      omega
    have starts : range.1 = start := by
      have covered : coverCount (range :: rest) start ≠ 0 := by
        rw [covers start, coverCount_singleton,
          if_pos ⟨le_refl start, lt_of_le_of_lt within.1 within.2⟩]
        exact Nat.one_ne_zero
      rcases contains_of_coverCount covered with ⟨other, member, contains⟩
      rcases mem_cons.mp member with equal | member
      · exact le_antisymm (equal ▸ contains.1) within.1
      · exact le_antisymm (le_trans (rel_of_pairwise_cons sorted member) contains.1) within.1
    subst starts
    have stops : range.2 ≤ stop := by
      by_contra beyond
      have here := covers stop
      rw [coverCount_cons, coverCount_singleton, coverCount_singleton,
        if_pos ⟨le_of_lt within.2, not_le.mp beyond⟩,
        if_neg fun contains => lt_irrefl stop contains.2] at here
      omega
    rw [walk, if_pos ⟨rfl, nonempty⟩]
    apply induction stops (pairwise_cons.mp sorted).2 (forall_mem_cons.mp positive).2
    intro point
    have whole := covers point
    have split := coverCount_split (le_of_lt nonempty) stops point
    rw [coverCount_cons] at whole
    have same : coverCount [range] point = coverCount [(range.1, range.2)] point := rfl
    omega

def Before (left right : α × α) : Prop := left.2 ≤ right.1

def Apart (left right : α × α) : Prop :=
  ∀ point, ¬(Contains left point ∧ Contains right point)

variable {left right : α × α}

theorem Apart.symm (apart : Apart left right) : Apart right left :=
  fun point inside => apart point ⟨inside.2, inside.1⟩

theorem Before.apart (before : Before left right) : Apart left right := by
  intro point inside
  exact absurd (lt_of_lt_of_le inside.1.2 before) (not_lt.mpr inside.2.1)

/-- Every range starts at or after the cursor left by the range before it. The
cursor may overshoot the end of a range. -/
def Ascends : α → List (α × α) → Prop
  | _, [] => True
  | cursor, range :: rest => cursor ≤ range.1 ∧ range.1 ≤ range.2 ∧ Ascends range.2 rest

theorem Ascends.mono {earlier later : α} (ordered : earlier ≤ later)
    (ascends : Ascends later ranges) : Ascends earlier ranges := by
  cases ranges with
  | nil => trivial
  | cons range rest => exact ⟨le_trans ordered ascends.1, ascends.2⟩

theorem Ascends.le_start :
    ∀ {cursor : α}, Ascends cursor ranges → ∀ range ∈ ranges, cursor ≤ range.1 := by
  induction ranges with
  | nil => intro cursor _ range member; cases member
  | cons head tail induction =>
    intro cursor ascends
    refine forall_mem_cons.mpr ⟨ascends.1, fun range member => ?_⟩
    exact le_trans ascends.1 (le_trans ascends.2.1 (induction ascends.2.2 range member))

theorem Ascends.pairwise : ∀ {cursor : α}, Ascends cursor ranges → ranges.Pairwise Before := by
  induction ranges with
  | nil => intro _ _; exact .nil
  | cons head tail induction =>
    intro cursor ascends
    exact .cons (ascends.2.2.le_start) (induction ascends.2.2)

theorem coverCount_eq_one (apart : ranges.Pairwise Apart) {range : α × α}
    (member : range ∈ ranges) (inside : Contains range point) : coverCount ranges point = 1 := by
  induction ranges with
  | nil => cases member
  | cons head tail induction =>
    rcases pairwise_cons.mp apart with ⟨headApart, tailApart⟩
    rw [coverCount_cons]
    rcases mem_cons.mp member with equal | member
    · subst range
      have outside := coverCount_eq_zero fun other otherMember contains =>
          headApart other otherMember point ⟨inside, contains⟩
      rw [outside, coverCount_singleton, if_pos inside]
    · have outside : ¬Contains head point :=
        fun contains => headApart range member point ⟨contains, inside⟩
      rw [induction tailApart member, coverCount_singleton, if_neg outside]

/-- Ranges which are apart are together no longer than what contains them. -/
theorem sum_lengths_le {ranges : List (Nat × Nat)} (apart : ranges.Pairwise Apart)
    {low high : Nat} (inside : ∀ range ∈ ranges, low ≤ range.1 ∧ range.2 ≤ high) :
    (ranges.map fun range => range.2 - range.1).sum ≤ high - low := by
  let points : List Nat := ranges.flatMap fun range => range' range.1 (range.2 - range.1)
  have nodup : points.Nodup := by
    apply nodup_flatMap.mpr
    refine ⟨fun range _ => nodup_range', apart.imp fun separate => ?_⟩
    intro point left right
    rw [mem_range'_1] at left right
    exact separate point ⟨⟨left.1, by omega⟩, right.1, by omega⟩
  have within : points ⊆ range' low (high - low) := by
    intro point member
    rcases mem_flatMap.mp member with ⟨range, listed, spanned⟩
    have bounds := inside range listed
    rw [mem_range'_1] at spanned ⊢
    omega
  have shorter := (subperm_of_subset nodup within).length_le
  simpa [points, length_flatMap, Function.comp_def] using shorter

/-- How far the ranges reach from the cursor without a gap, when they ascend by their starts. -/
def reach : α → List (α × α) → α
  | cursor, [] => cursor
  | cursor, range :: rest => if cursor < range.1 then cursor else reach (max cursor range.2) rest

theorem le_reach_iff : ∀ {cursor : α}, ranges.Pairwise (fun left right => left.1 ≤ right.1) →
    (stop ≤ reach cursor ranges ↔
      ∀ point, cursor ≤ point → point < stop → ∃ range ∈ ranges, Contains range point) := by
  induction ranges with
  | nil =>
    intro cursor _
    simp only [reach, not_mem_nil, false_and, exists_false]
    exact ⟨fun behind point after before => absurd (lt_of_lt_of_le before behind) after.not_gt,
      fun none => not_lt.mp fun before => none cursor le_rfl before⟩
  | cons range rest induction =>
    intro cursor sorted
    rcases pairwise_cons.mp sorted with ⟨first, sorted⟩
    rw [reach]
    split
    · next gap =>
        constructor
        · intro behind point after before
          exact absurd (lt_of_lt_of_le before behind) after.not_gt
        · intro covered
          apply not_lt.mp
          intro before
          rcases covered cursor le_rfl before with ⟨other, member, inside⟩
          have starts : ∀ other ∈ range :: rest, range.1 ≤ other.1 :=
            forall_mem_cons.mpr ⟨le_rfl, first⟩
          exact absurd (lt_of_lt_of_le gap ((starts other member).trans inside.1)) (lt_irrefl _)
    · next meets =>
        rw [induction sorted]
        constructor
        · intro covered point after before
          rcases lt_or_ge point range.2 with inside | beyond
          · exact ⟨range, mem_cons_self, (not_lt.mp meets).trans after, inside⟩
          · rcases covered point (max_le after beyond) before with ⟨other, member, inside⟩
            exact ⟨other, mem_cons_of_mem _ member, inside⟩
        · intro covered point after before
          rcases max_le_iff.mp after with ⟨after, beyond⟩
          rcases covered point after before with ⟨other, member, inside⟩
          rcases mem_cons.mp member with rfl | member
          · exact absurd inside.2 beyond.not_gt
          · exact ⟨other, member, inside⟩

theorem reach_le : ∀ {cursor : α}, cursor ≤ stop → (∀ range ∈ ranges, range.2 ≤ stop) →
    reach cursor ranges ≤ stop := by
  induction ranges with
  | nil => exact fun before _ => before
  | cons range rest induction =>
    intro cursor before inside
    rw [reach]
    split
    · exact before
    · exact induction (max_le before (inside range mem_cons_self)) (forall_mem_cons.mp inside).2

end Coldsnap.Intervals
