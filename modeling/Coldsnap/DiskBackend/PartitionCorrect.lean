import Coldsnap.DiskBackend.Partition

/-! # The partition covers the pool

Inside every allocation the model extents and the residual extents together
cover each byte once, and the shared pieces which a view references cover what
the extents of the view cover.
-/

namespace Coldsnap.DiskBackend

open Python Intervals List Checked Function

def ownedCount (owner : Int) (extents : List Extent) (point : Int) : Nat :=
  coverCount (ownedBy owner (extents.map Extent.placement)) point

theorem ownedBy_append (owner : Int) (left right : List Placement) :
    ownedBy owner (left ++ right) = ownedBy owner left ++ ownedBy owner right := by
  simp [ownedBy]

variable {owner : Int} {extents : List Extent}

theorem ownedBy_eq_filter (owner : Int) (extents : List Extent) :
    ownedBy owner (extents.map Extent.placement) =
      (extents.filter fun extent => extent.allocationPtr = owner).map Extent.range := by
  rw [ownedBy, filter_map, map_map]
  rfl

theorem ownedBy_all (owned : ∀ extent ∈ extents, extent.allocationPtr = owner) :
    ownedBy owner (extents.map Extent.placement) = extents.map Extent.range := by
  rw [ownedBy_eq_filter, filter_eq_self.mpr]
  exact fun extent listed => decide_eq_true (owned extent listed)

theorem ownedBy_none (foreign : ∀ extent ∈ extents, extent.allocationPtr ≠ owner) :
    ownedBy owner (extents.map Extent.placement) = [] := by
  rw [ownedBy_eq_filter, filter_eq_nil_iff.mpr, map_nil]
  exact fun extent listed same => foreign extent listed (of_decide_eq_true same)

/-- Parts which belong to different owners do not mix. -/
theorem ownedBy_flatMap {κ : Type} {keys : List κ} {owner : κ → Int} {part : κ → List Extent}
    (owned : ∀ key ∈ keys, ∀ extent ∈ part key, extent.allocationPtr = owner key)
    (distinct : (keys.map owner).Nodup) {key : κ} (member : key ∈ keys) :
    ownedBy (owner key) ((keys.flatMap part).map Extent.placement) =
      (part key).map Extent.range := by
  induction keys with
  | nil => cases member
  | cons first keys induction =>
    rw [map_cons, nodup_cons] at distinct
    rw [flatMap_cons, map_append, ownedBy_append]
    have ownedRest : ∀ other ∈ keys, ∀ extent ∈ part other, extent.allocationPtr = owner other :=
      (forall_mem_cons.mp owned).2
    rcases mem_cons.mp member with rfl | member
    · rw [ownedBy_all (owned key mem_cons_self), ownedBy_none, append_nil]
      intro extent listed same
      obtain ⟨other, otherMember, inside⟩ := mem_flatMap.mp listed
      have clash := (ownedRest other otherMember extent inside).symm.trans same
      exact distinct.1 (clash ▸ mem_map_of_mem otherMember)
    · rw [ownedBy_none, nil_append]
      · exact induction ownedRest distinct.2 member
      · intro extent listed same
        have clash := (owned first mem_cons_self extent listed).symm.trans same
        exact distinct.1 (clash ▸ mem_map_of_mem member)

/-! ## The gaps -/

theorem bounds_of_mem_gap {start stop : Int} {piece : Int × Int}
    (member : piece ∈ if start < stop then [(start, stop)] else []) :
    piece.1 = start ∧ start < stop ∧ piece.2 = stop := by
  split at member
  · next ordered =>
      rw [mem_singleton.mp member]
      exact ⟨rfl, ordered, rfl⟩
  · cases member

variable {error : PyError} {ranges pieces : List (Int × Int)}

theorem carve_pieces {cursor : Int} {carved : List (Int × Int) × Int} :
    carve error cursor ranges = .ok carved → carved.1.Pairwise Before ∧
      ∀ piece ∈ carved.1, cursor ≤ piece.1 ∧ piece.1 < piece.2 ∧ piece.2 ≤ carved.2 := by
  apply carve_induction (motive := fun cursor _ carved => carved.1.Pairwise Before ∧
    ∀ piece ∈ carved.1, cursor ≤ piece.1 ∧ piece.1 < piece.2 ∧ piece.2 ≤ carved.2)
  · exact fun _ => ⟨.nil, fun _ member => (not_mem_nil member).elim⟩
  · intro cursor range ranges rest _ ends walked later
    have reached := carve_le walked
    refine ⟨pairwise_append.mpr ⟨by split <;> simp, later.1, ?_⟩, fun piece member => ?_⟩
    · intro gap first piece member
      have found := bounds_of_mem_gap first
      have bounds := later.2 piece member
      simp only [Before]
      omega
    · rcases mem_append.mp member with member | member
      · have found := bounds_of_mem_gap member
        omega
      · have found := later.2 piece member
        omega

theorem gaps_pieces {span : Int × Int} (returned : gaps error span ranges = .ok pieces)
    (inside : ∀ range ∈ ranges, range.2 ≤ span.2) (ordered : span.1 ≤ span.2) :
    pieces.Pairwise Before ∧
      ∀ piece ∈ pieces, span.1 ≤ piece.1 ∧ piece.1 < piece.2 ∧ piece.2 ≤ span.2 := by
  simp only [gaps, bind_eq_ok, pure_eq_ok] at returned
  obtain ⟨carved, walked, rfl⟩ := returned
  have later := carve_le walked
  have bounded := carve_inside walked ordered inside
  have bounds := carve_pieces walked
  refine ⟨pairwise_append.mpr ⟨bounds.1, by split <;> simp, ?_⟩, fun piece member => ?_⟩
  · intro piece member gap last
    have found := bounds_of_mem_gap last
    have held := bounds.2 piece member
    simp only [Before]
    omega
  · rcases mem_append.mp member with member | member
    · have held := bounds.2 piece member
      omega
    · have found := bounds_of_mem_gap member
      omega

/-! ## Model and residual extents -/

def Extent.Inside (allocations : List Allocation) (extent : Extent) : Prop :=
  ∃ allocation ∈ allocations, extent.allocationPtr = allocation.pointer ∧
    allocation.pointer ≤ extent.ptr ∧ extent.ptr + extent.size ≤ allocation.stop

/-- What the partition of the pool guarantees. -/
structure Partitions (allocations : List Allocation) (model residual : List Extent) : Prop where
  positive : ∀ extent ∈ model ++ residual, 0 < extent.size
  inside : ∀ extent ∈ model ++ residual, extent.Inside allocations
  covers : ∀ allocation ∈ allocations, ∀ point,
    ownedCount allocation.pointer model point + ownedCount allocation.pointer residual point =
      coverCount [allocation.range] point
  ascending : ∀ allocation ∈ allocations,
    (ownedBy allocation.pointer (residual.map Extent.placement)).Pairwise Before
  model_nonempty : model ≠ []
  residual_nonempty : residual ≠ []

def OwnedRange.Held (allocations : List Allocation) (range : OwnedRange) : Prop :=
  0 < range.item.size ∧ ∃ allocation ∈ allocations, allocation.pointer = range.owner ∧
    allocation.pointer ≤ range.item.pointer ∧ range.item.stop ≤ allocation.stop

variable {label : String} {allocations : List Allocation} {item : SemanticRange}

variable {allocation : Allocation}

theorem owningAllocation_eq_ok
    (returned : owningAllocation label allocations item = .ok allocation) :
    allocation ∈ allocations ∧ allocation.pointer ≤ item.pointer ∧ item.stop ≤ allocation.stop := by
  unfold owningAllocation at returned
  split at returned
  · next found =>
      cases returned
      have member : allocation ∈ allocations.filter fun allocation =>
          allocation.pointer ≤ item.pointer && item.stop ≤ allocation.stop := by
        rw [found]
        exact mem_singleton_self _
      simpa using mem_filter.mp member
  · cases returned

theorem placeSemanticRanges_held {items : List SemanticRange} :
    ∀ {state final : (Int × List String) × List OwnedRange},
      foldEach (placeSemanticRange label allocations) state items = .ok final →
      (∀ range ∈ state.2, range.Held allocations) → ∀ range ∈ final.2, range.Held allocations := by
  induction items with
  | nil =>
    intro state final returned held
    cases returned
    exact held
  | cons item items induction =>
    intro state final returned held
    simp only [foldEach_cons, placeSemanticRange, checkSemanticRange,
      bind_eq_ok, require_eq_ok, pure_eq_ok, Bool.not_eq_true',
      Bool.or_eq_false_iff, decide_eq_false_iff_not, not_le, not_lt] at returned
    obtain ⟨next, ⟨seen, ⟨_, accepted, _⟩, owner, found, rfl⟩, rest⟩ := returned
    refine induction rest fun range member => ?_
    rcases mem_append.mp member with member | member
    · exact held range member
    · obtain rfl := mem_singleton.mp member
      obtain ⟨listed, starts, stops⟩ := owningAllocation_eq_ok found
      exact ⟨accepted.1.1.1.1.2, owner, listed, rfl, starts, stops⟩

variable {placed : List OwnedRange}

theorem mem_semanticRangesOf {pointer : Int} (member : item ∈ semanticRangesOf placed pointer) :
    ∃ range ∈ placed, range.owner = pointer ∧ range.item = item := by
  have listed := (sortedOn_perm _ _).mem_iff.mp member
  obtain ⟨range, filtered, rfl⟩ := mem_map.mp listed
  obtain ⟨listed, owned⟩ := mem_filter.mp filtered
  exact ⟨range, listed, of_decide_eq_true owned, rfl⟩

structure PartOf (allocation : Allocation) (part : List Extent × List Extent) : Prop where
  owned : ∀ extent ∈ part.1 ++ part.2, extent.allocationPtr = allocation.pointer
  bounds : ∀ extent ∈ part.1 ++ part.2, 0 < extent.size ∧ allocation.pointer ≤ extent.ptr ∧
    extent.ptr + extent.size ≤ allocation.stop
  covers : ∀ point, coverCount (part.1.map Extent.range) point +
    coverCount (part.2.map Extent.range) point = coverCount [allocation.range] point
  ascending : (part.2.map Extent.range).Pairwise Before

theorem modelExtent_range (owner : Int) (item : SemanticRange) :
    (modelExtent owner item).range = item.range := by
  simp only [modelExtent, Extent.range, SemanticRange.range, Prod.mk.injEq, true_and]
  omega

theorem residualExtent_range (owner : Int) (piece : Int × Int) :
    (residualExtent owner piece).range = piece := by
  simp only [residualExtent, Extent.range]
  ext
  · rfl
  · omega

theorem partitionAllocation_partOf (held : ∀ range ∈ placed, range.Held allocations)
    (member : allocation ∈ allocations) (distinct : (allocations.map Allocation.pointer).Nodup)
    (size : 0 < allocation.size) {part : List Extent × List Extent}
    (returned : partitionAllocation label placed allocation = .ok part) :
    PartOf allocation part := by
  simp only [partitionAllocation, bind_eq_ok, pure_eq_ok] at returned
  obtain ⟨pieces, carved, rfl⟩ := returned
  have inside : ∀ item ∈ semanticRangesOf placed allocation.pointer,
      0 < item.size ∧ allocation.pointer ≤ item.pointer ∧ item.stop ≤ allocation.stop := by
    intro item listed
    obtain ⟨range, placedMember, owned, rfl⟩ := mem_semanticRangesOf listed
    obtain ⟨positive, other, otherMember, named, starts, stops⟩ := held range placedMember
    obtain rfl := inj_on_of_nodup_map distinct otherMember member (named.trans owned)
    exact ⟨positive, starts, stops⟩
  have bounded : ∀ range ∈ (semanticRangesOf placed allocation.pointer).map SemanticRange.range,
      range.2 ≤ allocation.range.2 := by
    intro range listed
    obtain ⟨item, itemMember, rfl⟩ := mem_map.mp listed
    exact (inside item itemMember).2.2
  have ordered : allocation.range.1 ≤ allocation.range.2 := by
    simp only [Allocation.range, Allocation.stop]
    omega
  have between := gaps_pieces carved bounded ordered
  have residualRanges : Extent.range ∘ residualExtent allocation.pointer = id :=
    funext (residualExtent_range _)
  refine ⟨?_, ?_, fun point => ?_, ?_⟩
  · intro extent listed
    rcases mem_append.mp listed with listed | listed <;>
      obtain ⟨_, _, rfl⟩ := mem_map.mp listed <;> rfl
  · intro extent listed
    rcases mem_append.mp listed with listed | listed
    · obtain ⟨item, itemMember, rfl⟩ := mem_map.mp listed
      have held := inside item itemMember
      simp only [modelExtent, SemanticRange.stop] at held ⊢
      omega
    · obtain ⟨piece, pieceMember, rfl⟩ := mem_map.mp listed
      have held := between.2 piece pieceMember
      simp only [residualExtent, Allocation.range] at held ⊢
      omega
  · have whole := coverCount_gaps carved bounded ordered point
    have modelRanges : Extent.range ∘ modelExtent allocation.pointer = SemanticRange.range :=
      funext (modelExtent_range _)
    rw [map_map, map_map, modelRanges, residualRanges, map_id]
    omega
  · rw [map_map, residualRanges, map_id]
    exact between.1

variable {model residual : List Extent}

theorem partitionSemanticWeightExtents_partitions {layout : List SemanticRange}
    (distinct : (allocations.map Allocation.pointer).Nodup)
    (sizes : ∀ allocation ∈ allocations, 0 < allocation.size)
    (returned : partitionSemanticWeightExtents allocations layout label = .ok (model, residual)) :
    Partitions allocations model residual := by
  simp only [partitionSemanticWeightExtents, bind_eq_ok, require_eq_ok,
    pure_eq_ok, Prod.mk.injEq] at returned
  obtain ⟨_, _, placed, placing, parts, partitioned, _, nonempty, rfl, rfl⟩ := returned
  have held := placeSemanticRanges_held placing fun _ member => (not_mem_nil member).elim
  obtain ⟨part, rfl, computed⟩ := mapEach_eq_map partitioned
  have partOf : ∀ allocation ∈ allocations, PartOf allocation (part allocation) :=
    fun allocation member => partitionAllocation_partOf held member distinct
      (sizes allocation member) (computed allocation member)
  simp only [Bool.and_eq_true, decide_eq_true_eq] at nonempty
  have located : ∀ extent ∈ (allocations.map part).flatMap Prod.fst ++
      (allocations.map part).flatMap Prod.snd, ∃ allocation ∈ allocations, extent ∈
        (part allocation).1 ++ (part allocation).2 := by
    intro extent member
    rcases mem_append.mp member with member | member <;>
      obtain ⟨_, listed, found⟩ := mem_flatMap.mp member <;>
      obtain ⟨allocation, allocationMember, rfl⟩ := mem_map.mp listed
    · exact ⟨allocation, allocationMember, mem_append_left _ found⟩
    · exact ⟨allocation, allocationMember, mem_append_right _ found⟩
  have residualOwned : ∀ allocation ∈ allocations, ownedBy allocation.pointer
      (((allocations.map part).flatMap Prod.snd).map Extent.placement) =
        (part allocation).2.map Extent.range := by
    intro allocation member
    rw [flatMap_map]
    exact ownedBy_flatMap (fun other listed extent found =>
      (partOf other listed).owned extent (mem_append_right _ found)) distinct member
  refine ⟨?_, ?_, ?_, ?_, nonempty.1, nonempty.2⟩
  · intro extent member
    obtain ⟨allocation, allocationMember, found⟩ := located extent member
    exact ((partOf allocation allocationMember).bounds extent found).1
  · intro extent member
    obtain ⟨allocation, allocationMember, found⟩ := located extent member
    exact ⟨allocation, allocationMember, (partOf allocation allocationMember).owned extent found,
      ((partOf allocation allocationMember).bounds extent found).2⟩
  · intro allocation member point
    rw [ownedCount, ownedCount, residualOwned allocation member, flatMap_map,
      ownedBy_flatMap (fun other listed extent found =>
        (partOf other listed).owned extent (mem_append_left _ found)) distinct member]
    exact (partOf allocation member).covers point
  · intro allocation member
    rw [residualOwned allocation member]
    exact (partOf allocation member).ascending

/-! ## The sweep over the ends of the residual extents -/

def viewEdges (views : List (List Extent)) (allocation : Int) (view : Nat) : List (Int × Int) :=
  edges (((views.getD view []).filter fun extent => extent.allocationPtr = allocation).map
    Extent.range)

def levels (views : List (List Extent)) (allocation point : Int) : List Int :=
  (range views.length).map fun view => balance (viewEdges views allocation view) point

def changesAt (view : Nat) (changes : List (Int × Nat × Int)) : List (Int × Int) :=
  (changes.filter fun change => change.2.1 = view).map fun change => (change.1, change.2.2)

theorem changesAt_append (view : Nat) (left right : List (Int × Nat × Int)) :
    changesAt view (left ++ right) = changesAt view left ++ changesAt view right := by
  simp [changesAt]

variable {view : Nat}

theorem changesAt_view (other : Nat) (extents : List Extent) :
    changesAt view (extents.flatMap fun extent =>
      [(extent.ptr, other, 1), (extent.ptr + extent.size, other, -1)]) =
        if other = view then edges (extents.map Extent.range) else [] := by
  induction extents with
  | nil => simp [changesAt, edges]
  | cons extent extents induction =>
    rw [flatMap_cons, changesAt_append, induction]
    split <;> simp_all [changesAt, edges, Extent.range]

theorem changesAt_viewChanges (views : List (List Extent)) (allocation : Int) (view : Nat) :
    changesAt view (viewChanges views allocation) = viewEdges views allocation view := by
  -- The index of the first view is generalised for the induction over the views.
  suffices general : ∀ base, changesAt (base + view) ((views.zipIdx base).flatMap fun item =>
      (item.1.filter fun extent => extent.allocationPtr = allocation).flatMap fun extent =>
        [(extent.ptr, item.2, 1), (extent.ptr + extent.size, item.2, -1)]) =
      viewEdges views allocation view by
    simpa [viewChanges] using general 0
  induction views generalizing view with
  | nil =>
    intro base
    rfl
  | cons first views induction =>
    intro base
    rw [zipIdx_cons, flatMap_cons, changesAt_append]
    cases view with
    | zero =>
      have rest : changesAt (base + 0) ((views.zipIdx (base + 1)).flatMap fun item =>
          (item.1.filter fun extent => extent.allocationPtr = allocation).flatMap
            fun extent => [(extent.ptr, item.2, 1),
              (extent.ptr + extent.size, item.2, -1)]) = [] := by
        refine map_eq_nil_iff.mpr (filter_eq_nil_iff.mpr fun change member => ?_)
        obtain ⟨item, itemMember, found⟩ := mem_flatMap.mp member
        obtain ⟨extent, _, found⟩ := mem_flatMap.mp found
        have bound := (mem_zipIdx itemMember).1
        rcases mem_pair.mp found with rfl | rfl <;> simp only [decide_eq_true_eq] <;> omega
      rw [rest, append_nil, changesAt_view]
      exact if_pos rfl
    | succ view =>
      rw [changesAt_view, if_neg (by omega), nil_append]
      have shifted := induction view (base + 1)
      rw [show base + 1 + view = base + (view + 1) by omega] at shifted
      exact shifted

theorem applyChanges_eq_ok {changes : List (Nat × Int)} :
    ∀ {active : List Int}, (∀ change ∈ changes, change.1 < active.length) →
      (∀ view, Toggles (active.getD view 0) (arriving changes view)) →
      ∃ next, foldEach applyChange active changes = .ok next ∧ next.length = active.length ∧
        ∀ view < active.length,
          next.getD view 0 = active.getD view 0 + (arriving changes view).sum := by
  unfold arriving
  induction changes with
  | nil => exact fun _ _ => ⟨_, rfl, rfl, fun view _ => by simp⟩
  | cons change changes induction =>
    intro active bounded toggles
    rw [forall_mem_cons] at bounded
    have here := toggles change.1
    rw [filter_cons_of_pos (by simp), map_cons, Toggles] at here
    have applied : applyChange active change =
        .ok (active.set change.1 (active.getD change.1 0 + change.2)) := by
      rcases here.1 with value | value <;> simp only [applyChange, value] <;> rfl
    have rest : ∀ view, Toggles
        ((active.set change.1 (active.getD change.1 0 + change.2)).getD view 0)
        ((changes.filter fun change => change.1 = view).map Prod.snd) := by
      intro view
      by_cases same : change.1 = view
      · subst same
        simpa [getD_eq_getElem?_getD, bounded.1] using here.2
      · simpa [getD_eq_getElem?_getD, same, filter_cons] using toggles view
    obtain ⟨next, returned, length, values⟩ := induction (by simpa using bounded.2) rest
    rw [length_set] at length values
    refine ⟨next, by rw [foldEach_cons, applied]; exact returned, length, fun view inside => ?_⟩
    rw [values view inside, filter_cons]
    by_cases same : change.1 = view
    · subst same
      simp [getD_eq_getElem?_getD, inside]
      omega
    · simp [getD_eq_getElem?_getD, same]

/-- The extents of a view follow each other in every allocation. -/
structure ResidualView (view : List Extent) : Prop where
  positive : ∀ extent ∈ view, 0 < extent.size
  ascending : ∀ owner, (ownedBy owner (view.map Extent.placement)).Pairwise Before

variable {views : List (List Extent)} {allocation point : Int}

theorem getD_residualView (residual : ∀ view ∈ views, ResidualView view) (view : Nat) :
    ResidualView (views.getD view []) := by
  rcases lt_or_ge view views.length with inside | outside
  · apply residual
    simp [getD_eq_getElem?_getD, inside]
  · rw [getD_eq_getElem?_getD, getElem?_eq_none outside, Option.getD_none]
    exact ⟨fun _ member => (not_mem_nil member).elim, fun _ => .nil⟩

theorem levels_getD (view : Nat) : (levels views allocation point).getD view 0 =
    balance (viewEdges views allocation view) point := by
  rcases lt_or_ge view views.length with inside | outside
  · simp [levels, getD_eq_getElem?_getD, inside]
  · simp [levels, viewEdges, edges, balance, getD_eq_getElem?_getD, outside]

theorem viewEdges_arriving (views : List (List Extent)) (allocation point : Int) (view : Nat) :
    arriving (arriving (viewChanges views allocation) point) view =
      arriving (viewEdges views allocation view) point := by
  simp only [← changesAt_viewChanges, changesAt, arriving]
  rw [filter_map, filter_map, filter_filter, filter_filter, map_map, map_map]
  simp [Bool.and_comm]

theorem viewChanges_lt {change : Int × Nat × Int} (member : change ∈ viewChanges views allocation) :
    change.2.1 < views.length := by
  obtain ⟨item, listed, found⟩ := mem_flatMap.mp member
  obtain ⟨extent, _, found⟩ := mem_flatMap.mp found
  have bound := snd_lt_of_mem_zipIdx listed
  rcases mem_pair.mp found with rfl | rfl <;> exact bound

/-- The changes at the next point are accepted and bring the levels up to date. -/
theorem applyChanges_levels {early : Int} (residual : ∀ view ∈ views, ResidualView view)
    (ordered : early < point)
    (between : ∀ view, ∀ edge ∈ viewEdges views allocation view, edge.1 ≤ early ∨ point ≤ edge.1) :
    foldEach applyChange (levels views allocation early)
      (arriving (viewChanges views allocation) point) = .ok (levels views allocation point) := by
  have toggles : ∀ view, Toggles (balance (viewEdges views allocation view) early)
      (arriving (viewEdges views allocation view) point) := by
    intro view
    have held := getD_residualView residual view
    have ascending := held.ascending allocation
    rw [ownedBy_eq_filter] at ascending
    refine toggles_edges (fun range member => ?_) ascending ordered (between view)
    obtain ⟨extent, listed, rfl⟩ := mem_map.mp member
    have size := held.positive extent (mem_filter.mp listed).1
    simp only [Extent.range]
    omega
  obtain ⟨next, returned, length, values⟩ := @applyChanges_eq_ok
    (arriving (viewChanges views allocation) point) (levels views allocation early)
    (fun change member => by
      obtain ⟨change, listed, rfl⟩ := mem_map.mp member
      simpa [levels] using viewChanges_lt (mem_filter.mp listed).1)
    (fun view => by
      rw [levels_getD, viewEdges_arriving]
      exact toggles view)
  rw [returned]
  congr 1
  refine ext_getElem (by simp [levels, length]) fun view inside _ => ?_
  have value := values view (by omega)
  rw [levels_getD, viewEdges_arriving] at value
  have advance := balance_step ordered fun edge member reached =>
    (between view edge member).imp_right (le_antisymm reached)
  simp only [getD_eq_getElem?_getD, inside, getElem?_pos, Option.getD_some] at value
  simp only [levels, getElem_map, getElem_range]
  rw [value, advance]

def sweptPoints (views : List (List Extent)) (allocation : Int) : List Int :=
  sweepPoints (viewChanges views allocation)

def sweptPiece (views : List (List Extent)) (allocation : Int) (step : Int × Int) : SharedPiece :=
  ⟨residualExtent allocation step, (levels views allocation step.1).map fun open_ => open_ ≠ 0⟩

def sweptPieces (views : List (List Extent)) (allocation : Int) (points : List Int) :
    List SharedPiece :=
  ((steps points).filter fun step => (levels views allocation step.1).any fun open_ =>
    open_ ≠ 0).map (sweptPiece views allocation)

/-- From a point on, with the levels of that point, the sweep stores the pieces
of the remaining steps. -/
theorem sweepPoints_eq_ok (residual : ∀ view ∈ views, ResidualView view) {points : List Int} :
    ∀ {previous : Int} {stored : List SharedPiece}, (previous :: points).Pairwise (· < ·) →
      (∀ view, ∀ edge ∈ viewEdges views allocation view, edge.1 ≤ previous ∨ edge.1 ∈ points) →
      ∃ final, foldEach (sweepPoint allocation (viewChanges views allocation))
        ⟨levels views allocation previous, previous, stored⟩ points = .ok final ∧
        final.stored = stored ++ sweptPieces views allocation (previous :: points) := by
  induction points with
  | nil =>
    intro previous stored _ _
    exact ⟨_, rfl, by simp [sweptPieces, steps]⟩
  | cons point points induction =>
    intro previous stored ascending listed
    have ordered := rel_of_pairwise_cons ascending mem_cons_self
    have restAscending := (pairwise_cons.mp ascending).2
    have updated := applyChanges_levels residual ordered fun view edge member =>
      (listed view edge member).imp_right (head_le restAscending _)
    rw [foldEach_cons, sweepPoint, updated]
    obtain ⟨final, returned, collected⟩ := induction restAscending fun view edge member => by
      rcases listed view edge member with passed | later
      · exact .inl (le_trans passed (le_of_lt ordered))
      · exact (mem_cons.mp later).imp_left le_of_eq
    refine ⟨final, returned, collected.trans ?_⟩
    simp only [ordered, decide_true, Bool.true_and]
    unfold sweptPieces
    rw [steps, filter_cons]
    split
    · rw [map_cons, append_assoc, singleton_append]
      rfl
    · rfl

theorem mem_sweptPoints : point ∈ sweptPoints views allocation ↔
    ∃ change ∈ viewChanges views allocation, change.1 = point := by
  rw [sweptPoints, sweepPoints, (sortedOn_perm _ _).mem_iff, mem_dedup, mem_map]

theorem sweptPoints_ascending (views : List (List Extent)) (allocation : Int) :
    (sweptPoints views allocation).Pairwise (· < ·) := by
  have sorted := sortedOn_pairwise id ((viewChanges views allocation).map Prod.fst).dedup
  have distinct : (sweptPoints views allocation).Nodup :=
    (sortedOn_perm id _).nodup_iff.mpr (nodup_dedup _)
  exact sorted.imp₂ (fun _ _ => lt_of_le_of_ne) distinct

theorem viewEdges_listed {edge : Int × Int} (member : edge ∈ viewEdges views allocation view) :
    edge.1 ∈ sweptPoints views allocation := by
  rw [← changesAt_viewChanges] at member
  obtain ⟨change, listed, rfl⟩ := mem_map.mp member
  exact mem_sweptPoints.mpr ⟨change, (mem_filter.mp listed).1, rfl⟩

theorem sweepAllocation_eq_ok (residual : ∀ view ∈ views, ResidualView view)
    (stored : List SharedPiece) (allocation : Int) :
    sweepAllocation views stored allocation = .ok (stored ++
      sweptPieces views allocation (sweptPoints views allocation)) := by
  have ascending := sweptPoints_ascending views allocation
  have listed : ∀ view, ∀ edge ∈ viewEdges views allocation view,
      edge.1 ∈ sweptPoints views allocation :=
    fun view edge => viewEdges_listed
  simp only [sweepAllocation]
  rw [← sweptPoints]
  revert ascending listed
  generalize sweptPoints views allocation = points
  intro ascending listed
  cases points with
  | nil => simp [sweptPieces, steps]
  | cons first points =>
    have smallest : ∀ view, ∀ edge ∈ viewEdges views allocation view, first ≤ edge.1 :=
      fun view edge member => head_le ascending _ (listed view edge member)
    -- Just before the first point nothing is open.
    have closed : replicate views.length 0 = levels views allocation (first - 1) := by
      refine ext_getElem (by simp [levels]) fun view _ _ => ?_
      simp only [levels, getElem_map, getElem_range, getElem_replicate]
      exact (balance_ahead fun edge member => Int.sub_one_lt_of_le (smallest view edge member)).symm
    have opened := applyChanges_levels residual (Int.sub_one_lt_of_le (le_refl first))
      fun view edge member => .inr (smallest view edge member)
    obtain ⟨final, returned, collected⟩ := sweepPoints_eq_ok residual ascending
      fun view edge member => (mem_cons.mp (listed view edge member)).imp_left le_of_eq
    simp only [headD_cons, foldEach_cons, sweepPoint, closed, opened, lt_irrefl, decide_false,
      Bool.false_and, Bool.false_eq_true, if_false]
    rw [← collected]
    exact bind_eq_ok.mpr ⟨final, returned, rfl⟩

def sharedOwners (views : List (List Extent)) : List Int :=
  sortedOn id ((views.flatMap id).map Extent.allocationPtr).dedup

def sharedPieces (views : List (List Extent)) : List SharedPiece :=
  (sharedOwners views).flatMap fun allocation =>
    sweptPieces views allocation (sweptPoints views allocation)

/-- On views whose extents ascend the sweep returns. -/
theorem sharedResidualExtents_eq_ok (residual : ∀ view ∈ views, ResidualView view) :
    sharedResidualExtents views = .ok (sharedPieces views) := by
  have general : ∀ (owners : List Int) (stored : List SharedPiece),
      foldEach (sweepAllocation views) stored owners =
        .ok (stored ++ owners.flatMap fun allocation =>
          sweptPieces views allocation (sweptPoints views allocation)) := by
    intro owners
    induction owners with
    | nil => simp
    | cons owner owners induction =>
      intro stored
      rw [foldEach_cons, sweepAllocation_eq_ok residual, flatMap_cons, ← append_assoc]
      exact induction _
  exact general _ []

theorem sharedOwners_nodup (views : List (List Extent)) : (sharedOwners views).Nodup :=
  (sortedOn_perm id _).nodup_iff.mpr (nodup_dedup _)

theorem mem_sharedOwners :
    owner ∈ sharedOwners views ↔ ∃ view ∈ views, ∃ extent ∈ view, extent.allocationPtr = owner := by
  rw [sharedOwners, (sortedOn_perm _ _).mem_iff, mem_dedup]
  simp

/-! ## What a view references -/

theorem ResidualView.single {view : List Extent} (residual : ResidualView view)
    (owner point : Int) : ownedCount owner view point ≤ 1 := by
  by_cases covered : ownedCount owner view point = 0
  · omega
  · obtain ⟨range, member, contains⟩ := contains_of_coverCount covered
    exact (coverCount_eq_one ((residual.ascending owner).imp Before.apart) member contains).le

def sweptReferences (views : List (List Extent)) (view : Nat) (allocation : Int) : List Extent :=
  ((steps (sweptPoints views allocation)).filter fun step =>
    decide (balance (viewEdges views allocation view) step.1 ≠ 0)).map (residualExtent allocation)

theorem references_sweptPieces (inside : view < views.length) (allocation : Int) :
    references (sweptPieces views allocation (sweptPoints views allocation)) view =
      sweptReferences views view allocation := by
  have present : ∀ step, (sweptPiece views allocation step).present.getD view false =
      decide (balance (viewEdges views allocation view) step.1 ≠ 0) := by
    simp [sweptPiece, levels, getD_eq_getElem?_getD, inside]
  rw [references, sweptPieces, filter_map, filter_filter, map_map, sweptReferences]
  have same : ∀ step : Int × Int,
      (((fun piece : SharedPiece => piece.present.getD view false) ∘ sweptPiece views allocation)
          step && (levels views allocation step.1).any fun open_ => decide (open_ ≠ 0)) =
        decide (balance (viewEdges views allocation view) step.1 ≠ 0) := by
    intro step
    rw [comp_apply, present]
    by_cases opened : balance (viewEdges views allocation view) step.1 = 0
    · simp [opened]
    · have listed : ((levels views allocation step.1).any fun open_ => decide (open_ ≠ 0)) =
          true := by
        refine any_eq_true.mpr ⟨_, mem_map_of_mem (mem_range.mpr inside), ?_⟩
        simpa using opened
      rw [listed, Bool.and_true]
  rw [filter_congr fun step _ => same step]
  rfl

theorem references_flatMap {κ : Type} (keys : List κ) (part : κ → List SharedPiece) (view : Nat) :
    references (keys.flatMap part) view = keys.flatMap fun key => references (part key) view := by
  simp [references, filter_flatMap, map_flatMap]

theorem references_shared (inside : view < views.length) :
    references (sharedPieces views) view =
      (sharedOwners views).flatMap (sweptReferences views view) := by
  rw [sharedPieces, references_flatMap]
  congr 1
  funext allocation
  exact references_sweptPieces inside allocation

/-- As many extents of a view are open at a point as contain it. -/
theorem balance_viewEdges (positive : ∀ extent ∈ views.getD view [], 0 < extent.size)
    (allocation point : Int) :
    balance (viewEdges views allocation view) point =
      ownedCount allocation (views.getD view []) point := by
  rw [viewEdges, balance_edges, ownedCount, ownedBy_eq_filter]
  intro range member
  obtain ⟨extent, listed, rfl⟩ := mem_map.mp member
  have size := positive extent (mem_filter.mp listed).1
  simp only [Extent.range]
  omega

/-- Where a view is open, an extent of it starts at or before the point and
stops after it, and both ends are swept. -/
theorem sweepPoints_around (opened : ownedCount allocation (views.getD view []) point ≠ 0) :
    ∃ start ∈ sweptPoints views allocation,
      ∃ stop ∈ sweptPoints views allocation, start ≤ point ∧ point < stop := by
  rw [ownedCount, ownedBy_eq_filter] at opened
  obtain ⟨range, member, contains⟩ := contains_of_coverCount opened
  have listed : ∀ edge ∈ [(range.1, (1 : Int)), (range.2, -1)],
      edge ∈ viewEdges views allocation view :=
    fun edge found => mem_flatMap.mpr ⟨range, member, found⟩
  have starts := viewEdges_listed (listed (range.1, 1) (by simp))
  have stops := viewEdges_listed (listed (range.2, -1) (by simp))
  exact ⟨range.1, starts, range.2, stops, contains⟩

theorem coverCount_sweptReferences (residual : ResidualView (views.getD view []))
    (allocation point : Int) :
    coverCount ((sweptReferences views view allocation).map Extent.range) point =
      ownedCount allocation (views.getD view []) point := by
  have ranges : Extent.range ∘ residualExtent allocation = id :=
    funext (residualExtent_range allocation)
  rw [sweptReferences, map_map, ranges, map_id]
  have single := residual.single allocation point
  have level := balance_viewEdges residual.positive allocation point
  cases swept : sweptPoints views allocation with
  | nil =>
    have closed : ownedCount allocation (views.getD view []) point = 0 := by
      by_contra opened
      obtain ⟨_, member, _⟩ := sweepPoints_around opened
      rw [swept] at member
      cases member
    rw [closed]
    rfl
  | cons first points =>
    have ascending := sweptPoints_ascending views allocation
    have still : ∀ early ∈ sweptPoints views allocation, ∀ late, early ≤ late →
        (∀ other ∈ sweptPoints views allocation, other ≤ late → other ≤ early) →
        decide (balance (viewEdges views allocation view) late ≠ 0) =
          decide (balance (viewEdges views allocation view) early ≠ 0) := by
      intro early _ late ordered between
      rw [balance_eq ordered fun edge member reached =>
        between edge.1 (viewEdges_listed member) reached]
    rw [swept] at ascending still
    rw [coverCount_steps _ ascending still]
    by_cases opened : ownedCount allocation (views.getD view []) point = 0
    · have closed : balance (viewEdges views allocation view) point = 0 := by
        rw [level, opened]
        rfl
      rw [if_neg, opened]
      simp [closed]
    · obtain ⟨start, startMember, stop, stopMember, reached, before⟩ := sweepPoints_around opened
      rw [swept] at startMember stopMember
      have smallest := head_le ascending start startMember
      rw [if_pos]
      · omega
      · refine ⟨le_trans smallest reached, ⟨stop, stopMember, before⟩, ?_⟩
        rw [level]
        exact decide_eq_true (by exact_mod_cast opened)

theorem sweptReferences_owned (views : List (List Extent)) (view : Nat) (allocation : Int) :
    ∀ extent ∈ sweptReferences views view allocation, extent.allocationPtr = allocation := by
  intro extent member
  obtain ⟨step, _, rfl⟩ := mem_map.mp member
  rfl

/-- The pieces a view references cover what its own extents cover. -/
theorem ownedCount_references (inside : view < views.length)
    (residual : ResidualView (views.getD view [])) (owner point : Int) :
    ownedCount owner (references (sharedPieces views) view) point =
      ownedCount owner (views.getD view []) point := by
  rw [references_shared inside]
  by_cases member : owner ∈ sharedOwners views
  · have distinct : ((sharedOwners views).map id).Nodup := by
      rw [map_id]
      exact sharedOwners_nodup views
    have own := ownedBy_flatMap (fun allocation _ =>
      sweptReferences_owned views view allocation) distinct member
    rw [← coverCount_sweptReferences residual owner point, ownedCount]
    exact congrArg (coverCount · point) own
  · have empty : ownedBy owner ((views.getD view []).map Extent.placement) = [] := by
      refine ownedBy_none fun extent listed same => member (mem_sharedOwners.mpr ?_)
      refine ⟨views.getD view [], ?_, extent, listed, same⟩
      simp [getD_eq_getElem?_getD, inside]
    rw [ownedCount, ownedCount, empty, ownedBy_none]
    intro extent listed same
    obtain ⟨allocation, allocationMember, found⟩ := mem_flatMap.mp listed
    have own := sweptReferences_owned views view allocation extent found
    exact member ((own.symm.trans same) ▸ allocationMember)

theorem Partitions.residualView (partitions : Partitions allocations model residual) :
    ResidualView residual where
  positive extent member := partitions.positive extent (mem_append_right _ member)
  ascending owner := by
    by_cases named : ∃ allocation ∈ allocations, allocation.pointer = owner
    · rcases named with ⟨allocation, member, rfl⟩
      exact partitions.ascending allocation member
    · rw [ownedBy_none]
      · exact .nil
      · intro extent listed same
        rcases partitions.inside extent (mem_append_right _ listed)
          with ⟨allocation, member, owned, _⟩
        exact named ⟨allocation, member, owned.symm.trans same⟩

theorem sharedPieces_inside (distinct : (allocations.map Allocation.pointer).Nodup)
    (inside : ∀ view ∈ views, ∀ extent ∈ view, 0 < extent.size ∧ extent.Inside allocations) :
    ∀ piece ∈ sharedPieces views, 0 < piece.extent.size ∧ piece.extent.Inside allocations := by
  intro piece member
  rcases mem_flatMap.mp member with ⟨owner, owned, swept⟩
  rcases mem_map.mp swept with ⟨step, stepMember, rfl⟩
  have listed := (mem_filter.mp stepMember).1
  have ordered := steps_lt (sweptPoints_ascending _ _) listed
  rcases mem_sharedOwners.mp owned with ⟨view, viewMember, extent, extentMember, rfl⟩
  rcases (inside view viewMember extent extentMember).2 with ⟨allocation, held, same, _⟩
  have bounds : ∀ point ∈ sweptPoints views extent.allocationPtr,
      allocation.pointer ≤ point ∧ point ≤ allocation.stop := by
    intro point pointMember
    rcases mem_sweptPoints.mp pointMember with ⟨change, changeMember, rfl⟩
    rcases mem_flatMap.mp changeMember with ⟨item, itemMember, found⟩
    rcases mem_flatMap.mp found with ⟨other, otherMember, found⟩
    rcases mem_filter.mp otherMember with ⟨otherMember, sameOwner⟩
    have held' := inside item.1 (fst_mem_of_mem_zipIdx itemMember) other otherMember
    rcases held'.2 with ⟨holder, holderMember, named, starts, stops⟩
    have equal := inj_on_of_nodup_map distinct holderMember held
      (named.symm.trans ((of_decide_eq_true sameOwner).trans same))
    subst equal
    rcases mem_pair.mp found with rfl | rfl
    · exact ⟨starts, by omega⟩
    · exact ⟨by omega, stops⟩
  have first := bounds step.1 (steps_mem listed).1
  have second := bounds step.2 (steps_mem listed).2
  constructor
  · simp only [sweptPiece, residualExtent]
    omega
  · refine ⟨allocation, held, same, first.1, ?_⟩
    simp only [sweptPiece, residualExtent]
    omega

end Coldsnap.DiskBackend
