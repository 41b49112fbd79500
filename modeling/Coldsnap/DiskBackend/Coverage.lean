import Coldsnap.DiskBackend.Layout

/-! # Tiling checks shared by the manifest validators

Three places of the backend check that extents tile allocations, and two carve
an allocation into model ranges and the gaps between them. The loops are the
same, so they are defined and specified once here.
-/

namespace Coldsnap.DiskBackend

open Python Intervals List Checked

structure Placement where
  owner : Int
  range : Int × Int
deriving DecidableEq, Repr

def findSpan (spans : List (Int × Int)) (pointer : Int) : Option (Int × Int) :=
  spans.find? fun span => span.1 = pointer

def readPlacement [Builtins] (spans : List (Int × Int)) (extent : Dict) :
    Checked Placement := do
  let pointer ← extent.int "ptr"
  let size ← extent.int "size"
  let owner ← extent.int "allocation_ptr"
  match findSpan spans owner with
  | none => .error (keyError (toString owner))
  | some (start, stop) => do
    require (!(size ≤ 0 || pointer < start || stop < pointer + size)) (valueError "")
    return ⟨owner, (pointer, pointer + size)⟩

def ownedBy (owner : Int) (placements : List Placement) : List (Int × Int) :=
  (placements.filter fun placement => placement.owner = owner).map Placement.range

def tiles (span : Int × Int) (ranges : List (Int × Int)) : Bool :=
  walk span.1 (sortedOn (fun range : Int × Int => toLex range) ranges) = some span.2

def allTiled (spans : List (Int × Int)) (placements : List Placement) : Bool :=
  spans.all fun span => tiles span (ownedBy span.1 placements)

/-- One allocation is carved by ascending ranges: the gaps before each of them
and the final cursor. -/
def carve (error : PyError) : Int → List (Int × Int) → Checked (List (Int × Int) × Int)
  | cursor, [] => .ok ([], cursor)
  | cursor, range :: ranges => do
    require (!(range.1 < cursor || range.2 ≤ range.1)) error
    let rest ← carve error range.2 ranges
    return ((if cursor < range.1 then [(cursor, range.1)] else []) ++ rest.1, rest.2)

def gaps (error : PyError) (span : Int × Int) (ranges : List (Int × Int)) :
    Checked (List (Int × Int)) := do
  let carved ← carve error span.1 ranges
  return carved.1 ++ (if carved.2 < span.2 then [(carved.2, span.2)] else [])

def extentRange [Builtins] (extent : Dict) : Checked (Int × Int) := do
  let pointer ← extent.int "ptr"
  let size ← extent.int "size"
  return (pointer, pointer + size)

/-- Every byte of the allocations is covered once and no other byte is. -/
def CoversOnce (allocations : List Allocation) (ranges : List (Int × Int)) : Prop :=
  ∀ point, coverCount ranges point =
    if ∃ allocation ∈ allocations, Contains allocation.range point then 1 else 0

/-! ## Tilings -/

variable {spans : List (Int × Int)}

theorem readPlacement_eq_ok [Builtins] {extent : Dict} {placement : Placement}
    (returned : readPlacement spans extent = .ok placement) :
    ∃ pointer size span, extent.int "ptr" = .ok pointer ∧ extent.int "size" = .ok size ∧
      findSpan spans placement.owner = some span ∧ 0 < size ∧
      placement.range = (pointer, pointer + size) ∧
      span.1 ≤ pointer ∧ pointer + size ≤ span.2 := by
  simp only [readPlacement, bind_eq_ok] at returned
  rcases returned with ⟨pointer, readsPointer, size, readsSize, owner, _, returned⟩
  cases found : findSpan spans owner with
  | none => simp [found] at returned
  | some span =>
    simp only [found, bind_eq_ok, require_eq_ok, pure_eq_ok,
      Bool.not_eq_true', Bool.or_eq_false_iff, decide_eq_false_iff_not, not_le, not_lt]
      at returned
    rcases returned with ⟨_, ⟨⟨positive, starts⟩, stops⟩, rfl⟩
    exact ⟨pointer, size, span, readsPointer, readsSize, found, positive, rfl, starts, stops⟩

variable {span : Int × Int}

theorem findSpan_eq_some {pointer : Int} (found : findSpan spans pointer = some span)
    : span ∈ spans ∧ span.1 = pointer := by
  have named := find?_some found
  exact ⟨mem_of_find?_eq_some found, by simpa using named⟩

/-- Spans which are apart cover each point of the allocations once. -/
theorem coversOnce_of_apart {allocations : List Allocation}
    (apart : (allocations.map Allocation.range).Pairwise Apart) :
    CoversOnce allocations (allocations.map Allocation.range) := by
  intro point
  split
  · next inside =>
      rcases inside with ⟨allocation, member, contains⟩
      exact coverCount_eq_one apart (mem_map_of_mem member) contains
  · next outside =>
      refine coverCount_eq_zero fun range member contains => outside ?_
      rcases mem_map.mp member with ⟨allocation, listed, rfl⟩
      exact ⟨allocation, listed, contains⟩

variable {ranges : List (Int × Int)}

theorem coverCount_tiles (tiled : tiles span ranges = true) (point : Int) :
    coverCount ranges point = coverCount [span] point := by
  have walked := of_decide_eq_true tiled
  have sorted := sortedOn_perm (fun range : Int × Int => toLex range) ranges
  rw [← coverCount_perm sorted point, coverCount_of_walk point walked]

theorem tiles_of_coverCount (ordered : span.1 ≤ span.2)
    (positive : ∀ range ∈ ranges, range.1 < range.2)
    (covers : ∀ point, coverCount ranges point = coverCount [span] point) :
    tiles span ranges = true := by
  let order (range : Int × Int) := toLex range
  have sorted := sortedOn_perm order ranges
  have ascending : (sortedOn order ranges).Pairwise fun left right => left.1 ≤ right.1 :=
    (sortedOn_pairwise order ranges).imp fun before =>
      (Prod.Lex.le_iff.mp before).elim le_of_lt fun tied => tied.1.le
  apply decide_eq_true
  apply walk_of_coverCount ordered ascending
    fun range member => positive range (sorted.mem_iff.mp member)
  intro point
  rw [coverCount_perm sorted, covers point]

/-- Grouping items by a key loses nothing when every key is listed once. -/
theorem flatMap_filter_perm {α : Type} {key : α → Int} {keys : List Int} :
    ∀ {items : List α}, keys.Nodup → (∀ item ∈ items, key item ∈ keys) →
      (keys.flatMap fun each => items.filter fun item => key item = each).Perm items := by
  induction keys with
  | nil =>
    intro items _ listed
    cases items with
    | nil => exact .nil
    | cons item items => exact absurd (listed item mem_cons_self) not_mem_nil
  | cons first keys induction =>
    intro items nodup listed
    rcases nodup_cons.mp nodup with ⟨fresh, nodup⟩
    -- The items with another key than the first are grouped by induction.
    let rest := items.filter fun item => !decide (key item = first)
    have others : (keys.flatMap fun each => rest.filter fun item => key item = each).Perm rest := by
      refine induction nodup fun item member => ?_
      rcases mem_filter.mp member with ⟨member, different⟩
      refine (mem_cons.mp (listed item member)).resolve_left ?_
      simpa using different
    have same : (keys.flatMap fun each => items.filter fun item => key item = each) =
        keys.flatMap fun each => rest.filter fun item => key item = each := by
      refine flatMap_congr fun each member => ?_
      rw [filter_filter]
      refine filter_congr fun item _ => ?_
      by_cases hit : key item = each
      · have different : each ≠ first := fun equal => fresh (equal ▸ member)
        simp [hit, different]
      · simp [hit]
    rw [flatMap_cons, same]
    exact (others.append_left _).trans (filter_append_perm _ items)

variable {placements : List Placement}

theorem ownedBy_perm {starts : List Int} (nodup : starts.Nodup)
    (owned : ∀ placement ∈ placements, placement.owner ∈ starts) :
    (starts.flatMap fun start => ownedBy start placements).Perm
      (placements.map Placement.range) := by
  have grouped := (flatMap_filter_perm nodup owned).map Placement.range
  rwa [map_flatMap] at grouped

/-- Extents which name an allocation and tile it cover each point as often as
the allocations themselves do. -/
theorem coverCount_allTiled (starts : (spans.map Prod.fst).Nodup)
    (owned : ∀ placement ∈ placements, placement.owner ∈ spans.map Prod.fst)
    (tiled : allTiled spans placements = true) (point : Int) :
    coverCount (placements.map Placement.range) point = coverCount spans point := by
  rw [← coverCount_perm (ownedBy_perm starts owned) point, flatMap_map, coverCount_flatMap]
  have each : ∀ span ∈ spans,
      coverCount (ownedBy span.1 placements) point = coverCount [span] point :=
    fun span member =>
      coverCount_tiles (all_eq_true.mp tiled span member) point
  clear owned starts tiled
  induction spans with
  | nil => rfl
  | cons span spans induction =>
    rw [map_cons, sum_cons, coverCount_cons,
      induction (forall_mem_cons.mp each).2,
      each span mem_cons_self]

/-! ## Gaps -/

variable {error : PyError}

theorem coverCount_gap (start stop point : Int) :
    coverCount (if start < stop then [(start, stop)] else []) point =
      coverCount [(start, stop)] point := by
  split
  · rfl
  · rw [coverCount_empty (by omega)]
    rfl

/-- Induction over the ranges of a carving which returned. -/
theorem carve_induction {motive : Int → List (Int × Int) → List (Int × Int) × Int → Prop}
    (last : ∀ cursor, motive cursor [] ([], cursor))
    (turn : ∀ cursor range ranges rest, cursor ≤ range.1 → range.1 < range.2 →
      carve error range.2 ranges = .ok rest → motive range.2 ranges rest →
      motive cursor (range :: ranges)
        ((if cursor < range.1 then [(cursor, range.1)] else []) ++ rest.1, rest.2)) :
    ∀ {ranges : List (Int × Int)} {cursor : Int} {carved : List (Int × Int) × Int},
      carve error cursor ranges = .ok carved → motive cursor ranges carved := by
  intro ranges
  induction ranges with
  | nil =>
    intro cursor carved returned
    cases returned
    exact last cursor
  | cons range ranges induction =>
    intro cursor carved returned
    simp only [carve, bind_eq_ok, require_eq_ok, pure_eq_ok, Bool.not_eq_true',
      Bool.or_eq_false_iff, decide_eq_false_iff_not, not_le, not_lt] at returned
    rcases returned with ⟨_, accepted, rest, walked, rfl⟩
    exact turn cursor range ranges rest accepted.1 accepted.2 walked (induction walked)

variable {cursor : Int} {carved : List (Int × Int) × Int}

theorem carve_le : carve error cursor ranges = .ok carved → cursor ≤ carved.2 :=
  carve_induction (motive := fun cursor _ carved => cursor ≤ carved.2) le_refl
    fun _ _ _ _ starts ends _ later => (starts.trans ends.le).trans later

/-- The gaps and the ranges together cover what the cursor has passed. -/
theorem coverCount_carve (point : Int) :
    carve error cursor ranges = .ok carved →
      coverCount carved.1 point + coverCount ranges point =
        coverCount [(cursor, carved.2)] point := by
  apply carve_induction (motive := fun cursor ranges carved =>
    coverCount carved.1 point + coverCount ranges point = coverCount [(cursor, carved.2)] point)
  · intro cursor
    rw [coverCount_empty (le_refl cursor)]
    rfl
  · intro cursor range ranges rest starts ends walked covered
    have first := coverCount_split starts ends.le point
    have second := coverCount_split (starts.trans ends.le) (carve_le walked) point
    rw [coverCount_append, coverCount_gap, coverCount_cons range]
    change _ = coverCount [(cursor, rest.2)] point
    have same : coverCount [range] point = coverCount [(range.1, range.2)] point := rfl
    omega

theorem carve_inside {bound : Int} :
    carve error cursor ranges = .ok carved → cursor ≤ bound →
      (∀ range ∈ ranges, range.2 ≤ bound) → carved.2 ≤ bound := by
  apply carve_induction (motive := fun cursor ranges carved => cursor ≤ bound →
    (∀ range ∈ ranges, range.2 ≤ bound) → carved.2 ≤ bound)
  · exact fun _ bounded _ => bounded
  · intro cursor range ranges rest _ _ _ later _ inside
    rw [forall_mem_cons] at inside
    exact later inside.1 inside.2

theorem coverCount_gaps {pieces : List (Int × Int)} (returned : gaps error span ranges = .ok pieces)
    (inside : ∀ range ∈ ranges, range.2 ≤ span.2) (ordered : span.1 ≤ span.2) (point : Int) :
    coverCount pieces point + coverCount ranges point = coverCount [span] point := by
  simp only [gaps, bind_eq_ok, pure_eq_ok] at returned
  rcases returned with ⟨carved, walked, rfl⟩
  have covered := coverCount_carve point walked
  have bounded := carve_inside walked ordered inside
  have whole := coverCount_split (carve_le walked) bounded point
  rw [coverCount_append, coverCount_gap]
  have same : coverCount [span] point = coverCount [(span.1, span.2)] point := rfl
  omega

end Coldsnap.DiskBackend
