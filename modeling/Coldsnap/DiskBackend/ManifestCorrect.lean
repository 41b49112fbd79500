import Coldsnap.DiskBackend.Manifest

/-! # What the manifest validators establish

Each validator is a loop with a cursor. Read back, the loops say that extents
tile the allocations and that their file ranges are in bounds and apart.
-/

namespace Coldsnap.DiskBackend

open Python Intervals List Checked

def fileRange [Builtins] (extent : Dict) : Checked (Int × Int) := do
  let offset ← extent.int "offset"
  let size ← extent.int "size"
  return (offset, offset + size)

/-- The extents read ranges inside the file, and no two of them overlap. -/
def ReadsApart [Builtins] (extents : List Dict) (fileBytes : Int) : Prop :=
  ∃ ranges, mapEach fileRange extents = .ok ranges ∧
    (∀ range ∈ ranges, 0 ≤ range.1 ∧ range.2 ≤ fileBytes) ∧ ranges.Pairwise Apart

variable {fileBytes : Int}

theorem ReadsApart.perm [Builtins] {left right : List Dict} (perm : left.Perm right)
    (reads : ReadsApart left fileBytes) : ReadsApart right fileBytes := by
  rcases reads with ⟨ranges, read, bounds, apart⟩
  rcases mapEach_perm perm read with ⟨others, readOthers, samePieces⟩
  exact ⟨others, readOthers, fun range member => bounds range (samePieces.mem_iff.mpr member),
    samePieces.pairwise apart fun away => away.symm⟩

variable {extents : List Dict}

theorem ReadsApart.of_ascends [Builtins] {ranges : List (Int × Int)}
    (read : mapEach fileRange extents = .ok ranges) (ascends : Ascends 0 ranges)
    (bounded : ∀ range ∈ ranges, range.2 ≤ fileBytes) : ReadsApart extents fileBytes :=
  ⟨ranges, read, fun range member => ⟨ascends.le_start range member, bounded range member⟩,
    ascends.pairwise.imp fun before => before.apart⟩

theorem fileRange_eq_ok [Builtins] {extent : Dict} {offset size : Int}
    (readsOffset : extent.int "offset" = .ok offset) (readsSize : extent.int "size" = .ok size) :
    fileRange extent = .ok (offset, offset + size) := by
  simp [fileRange, readsOffset, readsSize]

theorem validateResidualFileExtents_reads [Builtins] {layout : Json}
    (returned : validateResidualFileExtents extents fileBytes layout = .ok ()) :
    ReadsApart extents fileBytes := by
  simp only [validateResidualFileExtents, bind_eq_ok, require_eq_ok] at returned
  rcases returned with ⟨_, _, _, _, sorted, sortedEq, cursor, walked, _⟩
  refine (foldEach_ascends id (fun extent found => fileRange extent = .ok found)
    (fun found => found.2 ≤ fileBytes) (fun _ first => ?_) walked).elim ?_
  · simp only [checkResidualExtent, bind_eq_ok, require_eq_ok, pure_eq_ok, Bool.not_eq_true',
      Bool.or_eq_false_iff, decide_eq_false_iff_not, not_le, not_lt] at first
    rcases first with ⟨offset, readsOffset, size, readsSize, _,
      ⟨⟨⟨⟨⟨positive, ordered⟩, _⟩, _⟩, _⟩, _⟩, _, bounded, rfl⟩
    have reaches : ∀ shared : Bool,
        offset + size ≤ offset + if shared then alignUp size else size := by
      have padded := le_alignUp size
      intro shared
      split <;> omega
    exact ⟨_, fileRange_eq_ok readsOffset readsSize, (reaches _).trans bounded, ordered,
      by omega, reaches _⟩
  · rintro ranges ⟨read, ascends, _, inside⟩
    have reads := ReadsApart.of_ascends (mapEach_eq_ok.mpr read) ascends fun range member =>
      (inside range member).1
    exact reads.perm (sortedBy_perm sortedEq)

theorem checkModelFile_reads [Builtins]
    (sizes : ∀ extent ∈ extents, ∃ size, extent.int "size" = .ok size ∧ 0 < size)
    (returned : checkModelFile extents fileBytes = .ok ()) : ReadsApart extents fileBytes := by
  simp only [checkModelFile, bind_eq_ok, require_eq_ok, decide_eq_true_eq] at returned
  rcases returned with ⟨stop, walked, rfl⟩
  refine (foldEach_ascends id (fun extent found => fileRange extent = .ok found) (fun _ => True)
    (fun member first => ?_) walked).elim ?_
  · rcases sizes _ member with ⟨size, readsSize, positive⟩
    simp only [checkModelExtent, readsSize, bind_eq_ok, require_eq_ok, pure_eq_ok,
      decide_eq_true_eq, Except.ok.injEq, exists_eq_left'] at first
    rcases first with ⟨offset, readsOffset, _, rfl, _, _, _, _, rfl⟩
    have padded := le_alignUp size
    refine ⟨_, fileRange_eq_ok readsOffset readsSize, trivial, le_refl _, by omega, ?_⟩
    exact Int.add_le_add_left padded _
  · rintro ranges ⟨read, ascends, _, inside⟩
    exact .of_ascends (mapEach_eq_ok.mpr read) ascends fun range member => (inside range member).2

/-! ## Entries and allocations -/

def liveEntry (allocation : Allocation) : Int × Int × Json :=
  (allocation.pointer, allocation.size, .str allocation.tag)

theorem sameEntry_live {entry : Int × Int × Json} {allocation : Allocation}
    (same : sameEntry entry (liveEntry allocation) = true) :
    entry = liveEntry allocation := by
  simp only [sameEntry, liveEntry, Bool.and_eq_true, beq_iff_eq] at same
  rcases same with ⟨⟨pointer, size⟩, tag⟩
  exact Prod.ext pointer (Prod.ext size (Json.eq_of_equal_str tag))

theorem sameEntry_self (allocation : Allocation) :
    sameEntry (liveEntry allocation) (liveEntry allocation) = true := by
  simp [sameEntry, liveEntry]

def savedSpan (entry : Int × Int × Json) : Int × Int := (entry.1, entry.1 + entry.2.1)

variable {saved : List (Int × Int × Json)} {entries : List Dict}

theorem savedEntries_spans [Builtins] (returned : mapEach savedEntry entries = .ok saved) :
    mapEach extentRange entries = .ok (saved.map savedSpan) := by
  rw [mapEach_eq_ok] at returned
  induction returned with
  | nil => rfl
  | cons head _ induction =>
    refine mapEach_cons_ok ?_ induction
    simp only [savedEntry, bind_eq_ok, pure_eq_ok] at head
    rcases head with ⟨pointer, readsPointer, size, readsSize, _, _, _, _, rfl⟩
    simp [extentRange, readsPointer, readsSize, savedSpan]

variable {allocations : List Allocation}

/-- Saved entries which are distinct and equal to the live allocations start at
distinct addresses. -/
theorem saved_starts_nodup (pointers : (allocations.map Allocation.pointer).Nodup) :
    ∀ {saved : List (Int × Int × Json)}, distinctEntries saved = true →
      (∀ entry ∈ saved, ∃ allocation ∈ allocations, entry = liveEntry allocation) →
      (saved.map Prod.fst).Nodup := by
  intro saved
  induction saved with
  | nil => intro _ _; exact .nil
  | cons entry saved induction =>
    intro distinct live
    simp only [distinctEntries, Bool.and_eq_true, Bool.not_eq_true'] at distinct
    refine nodup_cons.mpr ⟨fun repeated => ?_,
      induction distinct.2 (forall_mem_cons.mp live).2⟩
    rcases mem_map.mp repeated with ⟨other, otherMember, sameStart⟩
    rcases live entry mem_cons_self with ⟨first, firstMember, firstEq⟩
    rcases live other (mem_cons_of_mem _ otherMember) with ⟨second, secondMember, secondEq⟩
    subst firstEq secondEq
    have equal := inj_on_of_nodup_map pointers secondMember firstMember sameStart
    subst equal
    have same := any_eq_true.mpr ⟨_, otherMember, sameEntry_self second⟩
    rw [distinct.1] at same
    cases same

theorem matchesLive_spec (same : matchesLive saved allocations = true) :
    (∀ entry ∈ saved, ∃ allocation ∈ allocations, entry = liveEntry allocation) ∧
    ∀ allocation ∈ allocations, liveEntry allocation ∈ saved := by
  simp only [matchesLive, Bool.and_eq_true, all_eq_true, any_eq_true] at same
  constructor
  · intro entry member
    rcases same.1 entry member with ⟨allocation, listed, equal⟩
    exact ⟨allocation, listed, sameEntry_live equal⟩
  · intro allocation member
    rcases same.2 allocation member with ⟨entry, listed, equal⟩
    exact sameEntry_live equal ▸ listed

theorem Tidy.pointers_nodup (tidy : Tidy (allocations.map Allocation.range)) :
    (allocations.map Allocation.pointer).Nodup := by
  have starts := tidy.starts_nodup
  rw [map_map] at starts
  exact starts

theorem saved_spans_perm (tidy : Tidy (allocations.map Allocation.range))
    (distinct : distinctEntries saved = true) (same : matchesLive saved allocations = true) :
    (saved.map Prod.fst).Nodup ∧ (saved.map savedSpan).Perm (allocations.map Allocation.range) := by
  rcases matchesLive_spec same with ⟨live, listed⟩
  have starts := saved_starts_nodup tidy.pointers_nodup distinct live
  refine ⟨starts, ?_⟩
  have spansNodup : (saved.map savedSpan).Nodup := by
    refine .of_map Prod.fst ?_
    rw [map_map]
    exact starts
  rw [perm_ext_iff_of_nodup spansNodup tidy.nodup]
  intro span
  constructor
  · intro member
    rcases mem_map.mp member with ⟨entry, entryMember, rfl⟩
    rcases live entry entryMember with ⟨allocation, allocationMember, rfl⟩
    exact mem_map_of_mem allocationMember
  · intro member
    rcases mem_map.mp member with ⟨allocation, allocationMember, rfl⟩
    exact mem_map_of_mem (listed allocation allocationMember)

variable {spans : List (Int × Int)}

theorem foldl_insertSpan :
    ∀ {before : List (Int × Int)}, ((before ++ spans).map Prod.fst).Nodup →
      spans.foldl insertSpan before = before ++ spans := by
  induction spans with
  | nil => simp
  | cons span spans induction =>
    intro before nodup
    have fresh : (before.any fun other => decide (other.1 = span.1)) = false := by
      rw [any_eq_false]
      intro other member equal
      rw [map_append, map_cons] at nodup
      have apart := (nodup_append.mp nodup).2.2 other.1 (mem_map_of_mem member) span.1 mem_cons_self
      exact apart (by simpa using equal)
    have regrouped : before ++ span :: spans = (before ++ [span]) ++ spans := by simp
    rw [regrouped] at nodup ⊢
    rw [foldl_cons, insertSpan, fresh]
    exact induction nodup

/-! ## Tiling -/

variable {placements : List Placement}

theorem checkTiling_spec [Builtins] (returned : checkTiling spans extents = .ok placements) :
    mapEach extentRange extents = .ok (placements.map Placement.range) ∧
      (∀ placement ∈ placements, placement.owner ∈ spans.map Prod.fst) ∧
      ∀ extent ∈ extents, ∃ size, extent.int "size" = .ok size ∧ 0 < size := by
  rw [checkTiling, mapEach_eq_ok] at returned
  induction returned with
  | nil =>
    exact ⟨rfl, by simp, by simp⟩
  | cons head _ induction =>
    rcases readPlacement_eq_ok head with
      ⟨pointer, size, span, readsPointer, readsSize, found, positive, range, _⟩
    rcases findSpan_eq_some found with ⟨spanMember, start⟩
    rcases induction with ⟨read, owned, sizes⟩
    refine ⟨mapEach_cons_ok ?_ read, ?_, ?_⟩
    · simp [extentRange, readsPointer, readsSize, range]
    · exact forall_mem_cons.mpr ⟨start ▸ mem_map_of_mem spanMember, owned⟩
    · exact forall_mem_cons.mpr ⟨⟨size, readsSize, positive⟩, sizes⟩

/-- Extents which tile entries that match the live pool cover it once. -/
theorem coversOnce_of_tiling [Builtins] (tidy : Tidy (allocations.map Allocation.range))
    (read : mapEach savedEntry entries = .ok saved) (distinct : distinctEntries saved = true)
    (same : matchesLive saved allocations = true) (ranges : allocationRanges entries = .ok spans)
    (tiling : checkTiling spans extents = .ok placements)
    (tiled : allTiled spans placements = true) :
    ∃ covered, mapEach extentRange extents = .ok covered ∧ CoversOnce allocations covered := by
  rcases saved_spans_perm tidy distinct same with ⟨starts, perm⟩
  have spansNodup : ((saved.map savedSpan).map Prod.fst).Nodup := by
    rw [map_map]
    exact starts
  have spansEq : spans = saved.map savedSpan := by
    simp only [allocationRanges, savedEntries_spans read, bind_eq_ok,
      Except.ok.injEq, exists_eq_left', pure_eq_ok] at ranges
    rw [← ranges]
    exact foldl_insertSpan spansNodup
  subst spansEq
  rcases checkTiling_spec tiling with ⟨readRanges, owned, _⟩
  refine ⟨_, readRanges, fun point => ?_⟩
  rw [coverCount_allTiled spansNodup owned tiled point, coverCount_perm perm point]
  exact coversOnce_of_apart tidy.2 point

end Coldsnap.DiskBackend
