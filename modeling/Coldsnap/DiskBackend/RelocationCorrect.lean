import Coldsnap.DiskBackend.Relocation

/-! # A relocated manifest tiles the live pool

Model extents are placed range by range, so they cover what the live model
ranges cover. The residual stream fills the gaps without leaving any of them.
-/

namespace Coldsnap.DiskBackend

open Python Intervals List Checked Dict

def SameRecord (saved placed : Dict) : Prop :=
  ∀ key, key ≠ "ptr" → key ≠ "allocation_ptr" → placed.lookup key = saved.lookup key

/-! ## Live allocations -/

variable {live : List (Int × Int)} {size pointer owner : Int}

theorem containingLiveAllocation_mem
    (found : containingLiveAllocation live pointer size = .ok owner) :
    ∃ span ∈ live, span.1 = owner ∧ span.1 ≤ pointer ∧ pointer + size ≤ span.2 := by
  unfold containingLiveAllocation at found
  split at found
  · next span matched =>
      have member : span ∈ live.filter fun span => span.1 ≤ pointer && pointer + size ≤ span.2 := by
        rw [matched]
        exact mem_singleton_self span
      rcases mem_filter.mp member with ⟨member, inside⟩
      simp only [Bool.and_eq_true, decide_eq_true_eq] at inside
      cases found
      exact ⟨span, member, rfl, inside.1, inside.2⟩
  · cases found

variable {spans : List (Int × Int)}

theorem inOrder_pairwise :
    (∀ span ∈ spans, span.1 < span.2) → inOrder spans = true → spans.Pairwise Before := by
  induction spans with
  | nil => intro _ _; exact .nil
  | cons first rest induction =>
    intro positive ordered
    cases rest with
    | nil => exact pairwise_singleton Before first
    | cons second rest =>
      simp only [inOrder, Bool.and_eq_true, Bool.not_eq_true', decide_eq_false_iff_not,
        not_lt] at ordered
      have tail := induction (forall_mem_cons.mp positive).2 ordered.2
      refine .cons (forall_mem_cons.mpr ⟨ordered.1, fun span member => ?_⟩) tail
      have later : Before second span := (pairwise_cons.mp tail).1 span member
      have nonempty := positive second (mem_cons_of_mem _ mem_cons_self)
      simp only [Before] at later ⊢
      omega

variable {range : Int × Int}

theorem liveRange_eq_ok {allocation : Allocation} (returned : liveRange allocation = .ok range) :
    range = allocation.range ∧ 0 < allocation.size := by
  simp only [liveRange, bind_eq_ok, require_eq_ok, pure_eq_ok,
    Bool.not_eq_true', Bool.or_eq_false_iff, decide_eq_false_iff_not, not_le] at returned
  rcases returned with ⟨_, accepted, rfl⟩
  exact ⟨rfl, accepted.1.2⟩

/-- The live spans are the ranges of the sorted allocations, non-empty. -/
theorem liveSpans_eq {live : List Allocation} (returned : mapEach liveRange live = .ok spans) :
    spans = live.map Allocation.range ∧ ∀ span ∈ spans, span.1 < span.2 := by
  rw [mapEach_eq_ok] at returned
  induction returned with
  | nil => exact ⟨rfl, nofun⟩
  | cons head _ induction =>
    rcases liveRange_eq_ok head with ⟨rfl, positive⟩
    rcases induction with ⟨rfl, rest⟩
    refine ⟨rfl, forall_mem_cons.mpr ⟨?_, rest⟩⟩
    simp only [Allocation.range, Allocation.stop]
    omega

/-! ## Gaps of the live pool -/

theorem modelPlacement_eq_ok {placement : Placement}
    (returned : modelPlacement live range = .ok placement) :
    placement.range = span range ∧
      ∃ allocation ∈ live, allocation.1 = placement.owner ∧ (span range).2 ≤ allocation.2 := by
  simp only [modelPlacement, bind_eq_ok, pure_eq_ok] at returned
  rcases returned with ⟨owner, found, rfl⟩
  rcases containingLiveAllocation_mem found with ⟨allocation, member, owns, _, inside⟩
  exact ⟨rfl, allocation, member, owns, inside⟩

variable {placements : List Placement}

theorem ownedBy_mem (member : range ∈ ownedBy owner placements) :
    ∃ placement ∈ placements, placement.owner = owner ∧ placement.range = range := by
  rcases mem_map.mp member with ⟨placement, filtered, rfl⟩
  rcases mem_filter.mp filtered with ⟨placed, owns⟩
  exact ⟨placement, placed, by simpa using owns, rfl⟩

variable {model : List Placement} (point : Int)

theorem coverCount_liveResidual : ∀ {spans pieces : List (Int × Int)},
      (∀ span ∈ spans, span.1 < span.2) →
      (∀ span ∈ spans, ∀ range ∈ ownedBy span.1 model, range.2 ≤ span.2) →
      liveResidual model spans = .ok pieces →
        coverCount pieces point +
          coverCount (spans.flatMap fun span => ownedBy span.1 model) point =
            coverCount spans point := by
  intro spans
  induction spans with
  | nil =>
    intro pieces _ _ returned
    cases returned
    rfl
  | cons span spans induction =>
    intro pieces positive inside returned
    simp only [liveResidual, bind_eq_ok, pure_eq_ok] at returned
    rcases returned with ⟨head, gapped, rest, walked, rfl⟩
    have sorted := sortedOn_perm (fun range : Int × Int => toLex range) (ownedBy span.1 model)
    have headCover := coverCount_gaps gapped
      (fun range member =>
        inside span mem_cons_self range (sorted.mem_iff.mp member))
      (positive span mem_cons_self).le point
    have tailCover := induction (forall_mem_cons.mp positive).2 (forall_mem_cons.mp inside).2 walked
    rw [coverCount_perm sorted point] at headCover
    rw [flatMap_cons, coverCount_append, coverCount_append, coverCount_cons span]
    omega

theorem starts_nodup (positive : ∀ span ∈ spans, span.1 < span.2) (before : spans.Pairwise Before)
    : (spans.map Prod.fst).Nodup := by
  rw [Nodup, pairwise_map]
  refine before.imp_of_mem ?_
  intro left right leftMember _ ordered equal
  have nonempty := positive left leftMember
  simp only [Before] at ordered
  omega

variable {ranges : List (Int × Int)}

theorem modelPlacements_spec (placed : mapEach (modelPlacement live) ranges = .ok model) :
    model.map Placement.range = ranges.map span ∧
      ∀ placement ∈ model, ∃ allocation ∈ live,
        allocation.1 = placement.owner ∧ placement.range.2 ≤ allocation.2 := by
  rw [mapEach_eq_ok] at placed
  induction placed with
  | nil => exact ⟨rfl, nofun⟩
  | cons head _ induction =>
    rcases modelPlacement_eq_ok head with ⟨range, allocation, member, owns, inside⟩
    refine ⟨by rw [map_cons, map_cons, range, induction.1], ?_⟩
    exact forall_mem_cons.mpr ⟨⟨allocation, member, owns, range ▸ inside⟩, induction.2⟩

variable {pieces : List (Int × Int)}

/-- The gaps of the live pool and the live model ranges together cover it. -/
theorem coverCount_live (positive : ∀ span ∈ spans, span.1 < span.2)
    (before : spans.Pairwise Before) (placed : mapEach (modelPlacement spans) ranges = .ok model)
    (carved : liveResidual model spans = .ok pieces) (point : Int) :
    coverCount pieces point + coverCount (ranges.map span) point = coverCount spans point := by
  have starts := starts_nodup positive before
  rcases modelPlacements_spec placed with ⟨sameRanges, owned⟩
  have inside : ∀ span ∈ spans, ∀ range ∈ ownedBy span.1 model, range.2 ≤ span.2 := by
    intro span member range rangeMember
    rcases ownedBy_mem rangeMember with ⟨placement, listed, owns, rfl⟩
    rcases owned placement listed with ⟨allocation, allocationMember, start, bounded⟩
    have equal := inj_on_of_nodup_map starts allocationMember member (start.trans owns)
    exact equal ▸ bounded
  have named : ∀ placement ∈ model, placement.owner ∈ spans.map Prod.fst := by
    intro placement member
    rcases owned placement member with ⟨allocation, allocationMember, start, _⟩
    exact start ▸ mem_map_of_mem allocationMember
  have grouped := ownedBy_perm starts named
  rw [flatMap_map] at grouped
  have covered := coverCount_liveResidual point positive inside carved
  rw [coverCount_perm grouped point, sameRanges] at covered
  exact covered

/-! ## The residual stream -/

def unfilled : List (Int × Int) → Int → List (Int × Int)
  | [], _ => []
  | destination :: rest, offset =>
    (destination.1 + offset, destination.1 + destination.2) :: rest.map span

theorem unfilled_zero (destinations : List (Int × Int)) :
    unfilled destinations 0 = destinations.map span := by
  cases destinations with
  | nil => rfl
  | cons destination rest => simp [unfilled, span]

theorem coverCount_skipFull : ∀ (destinations : List (Int × Int)) (offset : Int),
      coverCount (unfilled (skipFull destinations offset).1 (skipFull destinations offset).2)
        point = coverCount (unfilled destinations offset) point := by
  intro destinations
  induction destinations with
  | nil => intro offset; rfl
  | cons destination rest induction =>
    intro offset
    rw [skipFull]
    split
    · next full =>
        rw [induction 0, unfilled_zero, unfilled, coverCount_cons, full,
          coverCount_empty (le_refl _), Nat.zero_add]
    · rfl

variable {source extent : Dict}

theorem placeExtent_eq_ok [Builtins]
    (returned : placeExtent live source pointer size = .ok extent) :
    SameRecord source extent ∧ extent.int "ptr" = .ok pointer := by
  simp only [placeExtent, bind_eq_ok, pure_eq_ok] at returned
  rcases returned with ⟨owner, _, rfl⟩
  constructor
  · intro key notPointer notOwner
    rw [lookup_set, if_neg notOwner, lookup_set, if_neg notPointer]
  · simp [int, Bind.bind, Except.bind]

theorem SameRecord.int [Builtins] {saved placed : Dict} (same : SameRecord saved placed)
    {key : String} (notPointer : key ≠ "ptr") (notOwner : key ≠ "allocation_ptr") :
    placed.int key = saved.int key := by
  simp [Dict.int, Dict.item, same key notPointer notOwner]

variable {label : String} {stream : Stream}

/-- One round of the stream places one extent at the front of what is left. -/
theorem streamExtent_eq_ok [Builtins] {next : Stream} {item : Dict × Nat}
    (readsSize : item.1.int "size" = .ok size) (positive : 0 < size)
    (returned : streamExtent live label stream item = .ok next) :
    ∃ extent range, next.placed = stream.placed ++ [(item.2, extent)] ∧
      SameRecord item.1 extent ∧ extentRange extent = .ok range ∧
      ∀ point, coverCount [range] point +
          coverCount (unfilled next.destinations next.offset) point =
        coverCount (unfilled stream.destinations stream.offset) point := by
  simp only [streamExtent, readsSize] at returned
  cases left : skipFull stream.destinations stream.offset with
  | mk destinations offset =>
    cases destinations with
    | nil => simp [left, Bind.bind, Except.bind] at returned
    | cons destination rest =>
      simp only [left, bind_eq_ok, Except.ok.injEq, exists_eq_left',
        require_eq_ok, pure_eq_ok, Bool.not_eq_true',
        decide_eq_false_iff_not, not_lt] at returned
      rcases returned with ⟨_, fits, extent, placed, rfl⟩
      rcases placeExtent_eq_ok placed with ⟨same, pointer⟩
      have reads : extent.int "size" = .ok size := by
        rw [same.int (by decide) (by decide), readsSize]
      refine ⟨extent, (destination.1 + offset, destination.1 + offset + size), rfl, same,
        ?_, fun point => ?_⟩
      · simp [extentRange, pointer, reads, Bind.bind, Except.bind, pure, Except.pure]
      · have skipped := coverCount_skipFull point stream.destinations stream.offset
        simp only [left] at skipped
        have cut : coverCount
            [(destination.1 + offset, destination.1 + destination.2)] point =
            coverCount [(destination.1 + offset, destination.1 + offset + size)] point +
            coverCount [(destination.1 + offset + size, destination.1 + destination.2)] point :=
          coverCount_split (by omega) (by omega) point
        have before := coverCount_cons
          (destination.1 + offset, destination.1 + destination.2) (rest.map span) point
        have after := coverCount_cons
          (destination.1 + (offset + size), destination.1 + destination.2)
          (rest.map span) point
        rw [← Int.add_assoc] at after
        simp only [unfilled] at skipped ⊢
        rw [← Int.add_assoc]
        omega

/-- The extents a run of the stream placed, beside the items it placed. -/
theorem stream_placed [Builtins] :
    ∀ {items : List (Dict × Nat)} {stream final : Stream},
      (∀ item ∈ items, ∃ size, item.1.int "size" = .ok size ∧ 0 < size) →
      foldEach (streamExtent live label) stream items = .ok final →
      ∃ placed ranges, final.placed = stream.placed ++ placed ∧
        Forall₂ (fun item entry => entry.1 = item.2 ∧ SameRecord item.1 entry.2) items placed ∧
        mapEach extentRange (placed.map Prod.snd) = .ok ranges ∧
        ∀ point, coverCount ranges point +
            coverCount (unfilled final.destinations final.offset) point =
          coverCount (unfilled stream.destinations stream.offset) point := by
  intro items
  induction items with
  | nil =>
    intro stream final _ returned
    cases returned
    exact ⟨[], [], by simp, .nil, rfl, fun point => by simp⟩
  | cons item items induction =>
    intro stream final sizes returned
    simp only [foldEach_cons, bind_eq_ok] at returned
    rcases returned with ⟨next, stepped, rest⟩
    rcases sizes item mem_cons_self with ⟨size, readsSize, positive⟩
    rcases streamExtent_eq_ok readsSize positive stepped with
      ⟨extent, range, grown, same, reads, covered⟩
    rcases induction (forall_mem_cons.mp sizes).2 rest
      with ⟨placed, ranges, final_eq, related, readsRest, coveredRest⟩
    refine ⟨(item.2, extent) :: placed, range :: ranges, ?_, .cons ⟨rfl, same⟩ related, ?_,
      fun point => ?_⟩
    · rw [final_eq, grown, append_assoc]
      rfl
    · simp [mapEach, reads, readsRest, Bind.bind, Except.bind, pure, Except.pure]
    · have first := covered point
      have others := coveredRest point
      rw [coverCount_cons]
      omega

variable {placed : List (Nat × Dict)}

theorem placed_keys {items : List (Dict × Nat)}
    (related : Forall₂ (fun item entry => entry.1 = item.2 ∧ SameRecord item.1 entry.2)
      items placed) : placed.map Prod.fst = items.map Prod.snd := by
  induction related with
  | nil => rfl
  | cons head _ induction => rw [map_cons, map_cons, head.1, induction]

/-- Reading every slot in the order of the keys returns the placed extents. -/
theorem filterMap_find (found : ∀ entry ∈ placed, stream.find entry.1 = some entry.2) :
    (placed.map Prod.fst).filterMap stream.find = placed.map Prod.snd := by
  rw [filterMap_map, ← filterMap_eq_map]
  exact filterMap_congr found

theorem forall₂_find :
    ∀ {items : List (Dict × Nat)},
      (∀ item ∈ items, ∃ extent, stream.find item.2 = some extent ∧ SameRecord item.1 extent) →
      Forall₂ SameRecord (items.map Prod.fst) (items.filterMap fun item => stream.find item.2) := by
  intro items
  induction items with
  | nil => intro _; exact .nil
  | cons item items induction =>
    intro found
    rcases found item mem_cons_self with ⟨extent, located, same⟩
    simp only [map_cons, filterMap_cons, located]
    exact .cons same (induction (forall_mem_cons.mp found).2)

/-- The stream keeps the saved order and fills its destinations. -/
theorem relocateStream_eq_ok [Builtins] {destinations : List (Int × Int)}
    {sources result : List Dict}
    (sizes : ∀ source ∈ sources, ∃ size, source.int "size" = .ok size ∧ 0 < size)
    (returned : relocateStream live sources destinations label = .ok result) :
    Forall₂ SameRecord sources result ∧
      ∃ ranges, mapEach extentRange result = .ok ranges ∧
        ∀ point, coverCount ranges point = coverCount (destinations.map span) point := by
  simp only [relocateStream, bind_eq_ok, require_eq_ok, pure_eq_ok, decide_eq_true_eq] at returned
  rcases returned with ⟨ordered, sorted, final, streamed, _, finished, rfl⟩
  have perm := sortedBy_perm sorted
  have itemSizes : ∀ item ∈ ordered, ∃ size, item.1.int "size" = .ok size ∧ 0 < size := by
    intro item member
    exact sizes item.1 (fst_mem_of_mem_zipIdx (perm.mem_iff.mp member))
  rcases stream_placed itemSizes streamed with ⟨placed, ranges, grown, related, reads, covered⟩
  have keysPerm := placed_keys related ▸ perm.map Prod.snd
  have keys : (placed.map Prod.fst).Nodup := by
    rw [keysPerm.nodup_iff, zipIdx_map_snd]
    exact nodup_range'
  have finds : ∀ entry ∈ placed, final.find entry.1 = some entry.2 := by
    intro entry member
    have grownPlaced : final.placed = placed := grown
    rw [Stream.find, grownPlaced, find_of_nodup keys member]
    rfl
  constructor
  · have each : ∀ item ∈ sources.zipIdx,
        ∃ extent, final.find item.2 = some extent ∧ SameRecord item.1 extent := by
      intro item member
      rcases exists_of_forall₂ related (perm.mem_iff.mpr member) with
        ⟨entry, placedEntry, same⟩
      exact ⟨entry.2, same.1 ▸ finds entry placedEntry, same.2⟩
    have kept := forall₂_find each
    rwa [zipIdx_map_fst] at kept
  · have samePieces : (sources.zipIdx.filterMap fun item => final.find item.2).Perm
        (placed.map Prod.snd) := by
      have filtered := (keysPerm.filterMap final.find).symm
      rwa [filterMap_find finds, filterMap_map] at filtered
    rcases mapEach_perm samePieces.symm reads with ⟨others, readsOthers, sameRanges⟩
    refine ⟨others, readsOthers, fun point => ?_⟩
    have total := covered point
    have left := coverCount_skipFull point final.destinations final.offset
    rw [finished] at left
    have none : coverCount (unfilled [] (skipFull final.destinations final.offset).2) point = 0 :=
      rfl
    rw [← coverCount_perm sameRanges point]
    change _ = coverCount (unfilled destinations 0) point at total
    rw [unfilled_zero] at total
    omega

/-! ## Model extents -/

variable {semantics : List SemanticRange} {target : SemanticRange}

theorem liveModelBySemanticId_eq_some {semanticId : String}
    (found : liveModelBySemanticId semantics semanticId = some target) :
    target ∈ semantics ∧ target.semanticId = semanticId := by
  have member := mem_of_find?_eq_some found
  have named := find?_some found
  exact ⟨mem_reverse.mp member, by simpa using named⟩

/-- A relocated model extent: the saved record at the address the live model
gives to its identity. -/
structure PlacedModelExtent [Builtins] (semantics : List SemanticRange) (saved placed : Dict)
    (target : SemanticRange) : Prop where
  member : target ∈ semantics
  semanticId : semanticIdText saved = .ok target.semanticId
  savedSize : saved.int "size" = .ok target.size
  same : SameRecord saved placed
  pointer : placed.int "ptr" = .ok target.pointer

theorem relocateModelExtent_eq_ok [Builtins]
    (returned : relocateModelExtent live semantics source = .ok extent) :
    ∃ target, PlacedModelExtent semantics source extent target := by
  simp only [relocateModelExtent, bind_eq_ok] at returned
  rcases returned with ⟨semanticId, reads, returned⟩
  cases found : liveModelBySemanticId semantics semanticId.toText with
  | none => simp [found] at returned
  | some target =>
    simp only [found, bind_eq_ok, require_eq_ok, decide_eq_true_eq] at returned
    rcases returned with ⟨size, readsSize, _, rfl, placed⟩
    rcases liveModelBySemanticId_eq_some found with ⟨member, named⟩
    rcases placeExtent_eq_ok placed with ⟨same, pointer⟩
    refine ⟨target, member, ?_, readsSize, same, pointer⟩
    simp [semanticIdText, reads, named]

theorem PlacedModelExtent.reads [Builtins] {saved placed : Dict}
    (extent : PlacedModelExtent semantics saved placed target) :
    extentRange placed = .ok target.range := by
  have size : placed.int "size" = .ok target.size := by
    rw [extent.same.int (by decide) (by decide), extent.savedSize]
  simp [extentRange, extent.pointer, size, SemanticRange.range, SemanticRange.stop]

theorem relocatedModel_targets [Builtins] {sources model : List Dict}
    (returned : mapEach (relocateModelExtent live semantics) sources = .ok model) :
    ∃ targets : List SemanticRange,
      mapEach semanticIdText sources = .ok (targets.map SemanticRange.semanticId) ∧
      mapEach extentRange model = .ok (targets.map SemanticRange.range) ∧
      targets ⊆ semantics ∧
      Forall₂ (fun saved placed => ∃ target, PlacedModelExtent semantics saved placed target)
        sources model := by
  rw [mapEach_eq_ok] at returned
  induction returned with
  | nil => exact ⟨[], rfl, rfl, nil_subset _, .nil⟩
  | cons head _ induction =>
    rcases relocateModelExtent_eq_ok head with ⟨target, placed⟩
    rcases induction with ⟨targets, ids, ranges, listed, related⟩
    refine ⟨target :: targets, mapEach_cons_ok placed.semanticId ids,
      mapEach_cons_ok placed.reads ranges,
      cons_subset.mpr ⟨placed.member, listed⟩, .cons ⟨target, placed⟩ related⟩

theorem nodup_of_dedup_length {α : Type} [DecidableEq α] {items : List α}
    (length : items.dedup.length = items.length) : items.Nodup := by
  have same := (dedup_sublist items).eq_of_length length
  exact same ▸ nodup_dedup items

/-- Targets with the identities of the live model are the live model. -/
theorem targets_perm {targets : List SemanticRange} (listed : targets ⊆ semantics)
    (targetIds : (targets.map SemanticRange.semanticId).Nodup)
    (liveIds : (semantics.map SemanticRange.semanticId).Nodup)
    (same : sameSet (targets.map SemanticRange.semanticId)
      (semantics.map SemanticRange.semanticId) = true) : targets.Perm semantics := by
  rw [perm_ext_iff_of_nodup targetIds.of_map liveIds.of_map]
  intro item
  constructor
  · exact fun member => listed member
  · intro member
    have named : item.semanticId ∈ targets.map SemanticRange.semanticId :=
      (sameSet_iff.mp same _).mpr (mem_map_of_mem member)
    rcases mem_map.mp named with ⟨target, targetMember, equal⟩
    have identified := inj_on_of_nodup_map liveIds (listed targetMember) member equal
    exact identified ▸ targetMember

/-! ## The relocated manifest -/

variable {residual : List Dict}

theorem residualRecords_range [Builtins]
    (returned : mapEach (residualRecord live) pieces = .ok residual) :
    mapEach extentRange residual = .ok pieces := by
  rw [mapEach_eq_ok] at returned
  induction returned with
  | nil => rfl
  | cons head _ induction =>
    refine mapEach_cons_ok ?_ induction
    simp only [residualRecord, bind_eq_ok, pure_eq_ok] at head
    rcases head with ⟨owner, _, rfl⟩
    simp [extentRange, Dict.int, Dict.item, Dict.lookup, Bind.bind, Except.bind]

variable {extents : List Dict}

theorem captured_sizes [Builtins]
    (returned : mapEach (validateCapturedExtent spans) extents = .ok placements) :
    ∀ extent ∈ extents, ∃ size, extent.int "size" = .ok size ∧ 0 < size := by
  intro extent member
  rcases exists_of_forall₂ (mapEach_eq_ok.mp returned) member with
    ⟨placement, _, read⟩
  rw [validateCapturedExtent, rescue_eq_ok] at read
  rcases readPlacement_eq_ok read with ⟨_, size, _, _, readsSize, _, positive, _⟩
  exact ⟨size, readsSize, positive⟩

theorem extentList_eq_some {value : Json} (listed : extentList value = some extents) :
    value.asDicts = some extents ∧ extents ≠ [] := by
  unfold extentList at listed
  split at listed
  · next read =>
      cases listed
      exact ⟨read, cons_ne_nil _ _⟩
  · cases listed

theorem relocateResidual_eq_ok [Builtins] {residualLayoutChanged : Bool}
    (sizes : ∀ extent ∈ extents, ∃ size, extent.int "size" = .ok size ∧ 0 < size)
    (returned : relocateResidual live extents pieces residualLayoutChanged = .ok residual) :
    (residualLayoutChanged = false → Forall₂ SameRecord extents residual) ∧
      ∃ ranges, mapEach extentRange residual = .ok ranges ∧
        ∀ point, coverCount ranges point = coverCount pieces point := by
  cases residualLayoutChanged with
  | true =>
    have records : mapEach (residualRecord live) pieces = .ok residual := returned
    exact ⟨nofun, pieces, residualRecords_range records, fun _ => rfl⟩
  | false =>
    have streamed : relocateStream live extents (pieces.map gapSize) "residual" =
        .ok residual := returned
    rcases relocateStream_eq_ok sizes streamed with ⟨same, ranges, reads, covered⟩
    refine ⟨fun _ => same, ranges, reads, fun point => ?_⟩
    have spans : (pieces.map gapSize).map span = pieces := by
      simp [gapSize, span, Function.comp_def]
    rw [covered point, spans]

structure Relocated [Builtins] (savedModel savedResidual model residual : List Dict)
    (live : List Allocation) (semantics : List SemanticRange) (residualLayoutChanged : Bool) :
    Prop where
  covers : ∃ ranges, mapEach extentRange (model ++ residual) = .ok ranges ∧ CoversOnce live ranges
  model : Forall₂
    (fun saved placed => ∃ target, PlacedModelExtent semantics saved placed target)
    savedModel model
  residual : residualLayoutChanged = false → Forall₂ SameRecord savedResidual residual

variable {modelExtents residualExtents : List Dict} {manifest relocated : Dict}
  {captured : List Dict}

variable {live : List Allocation}

theorem relocateExtents_eq_ok [Builtins]
    (derived : ranges = semantics.map fun item => (item.pointer, item.size))
    (returned : relocateExtents manifest captured live modelExtents residualExtents ranges
      semantics = .ok relocated) :
    ∃ model residual bytes changed,
      relocated = relocatedRecord manifest live model residual bytes changed ∧
      Relocated modelExtents residualExtents model residual live semantics changed := by
  simp only [relocateExtents, bind_eq_ok, require_eq_ok, rescue_eq_ok,
    pure_eq_ok, Bool.and_eq_true, beq_iff_eq] at returned
  rcases returned with ⟨capturedSpans, _, liveSpans, liveRead, _, _, _, ordered, placements,
    validated, _, _, _, _, modelPlacements, placed, pieces, carved, _, _, capturedIds, idsRead,
    _, ⟨⟨⟨capturedDistinct, liveDistinct⟩, sameIds⟩, _⟩, model, modelRead, capturedBytes, _,
    residual, residualRead, rfl⟩
  refine ⟨model, residual, _, _, rfl, ?_⟩
  rcases liveSpans_eq liveRead with ⟨rfl, positive⟩
  have before := inOrder_pairwise positive ordered
  have sizes : ∀ extent ∈ residualExtents, ∃ size, extent.int "size" = .ok size ∧ 0 < size :=
    fun extent member => captured_sizes validated extent (mem_append_right _ member)
  rcases relocateResidual_eq_ok sizes residualRead with
    ⟨residualSame, residualRanges, residualReads, residualCovered⟩
  rcases relocatedModel_targets modelRead with ⟨targets, targetIds, modelReads, listed, related⟩
  have idsEqual := Except.ok.inj (idsRead.symm.trans targetIds)
  subst idsEqual
  have idsLength := (mapEach_eq_ok.mp idsRead).length_eq
  have perm := targets_perm listed
    (nodup_of_dedup_length (capturedDistinct.trans idsLength))
    (nodup_of_dedup_length (by simpa using liveDistinct)) sameIds
  rw [mapEach_eq_ok] at modelReads residualReads
  refine ⟨⟨_, mapEach_eq_ok.mpr (rel_append modelReads residualReads), fun point => ?_⟩, related,
    residualSame⟩
  have whole := coverCount_live positive before placed carved point
  have sorted := (sortedOn_perm (fun range : Int × Int => toLex range) ranges).map span
  rw [coverCount_perm sorted point, derived, map_map] at whole
  have modelCover : coverCount (targets.map SemanticRange.range) point =
      coverCount (semantics.map SemanticRange.range) point :=
    coverCount_perm (perm.map _) point
  have live := coversOnce_of_apart (before.imp fun ordered => ordered.apart) point
  rw [coverCount_append, modelCover, residualCovered point, Nat.add_comm, ← live]
  exact whole

/-- Without a live semantic layout no identity of a saved extent is known. -/
theorem relocateExtents_bound [Builtins] (nonempty : modelExtents ≠ [])
    (returned : relocateExtents manifest captured live modelExtents residualExtents ranges
      semantics = .ok relocated) : semantics ≠ [] := by
  simp only [relocateExtents, bind_eq_ok, require_eq_ok, rescue_eq_ok,
    pure_eq_ok, Bool.and_eq_true, beq_iff_eq] at returned
  rcases returned with ⟨_, _, _, _, _, _, _, _, _, _, _, _, _, _, _, _, _, _, _, _, capturedIds,
    idsRead, _, ⟨⟨_, sameIds⟩, _⟩, _⟩
  intro empty
  subst empty
  have idsLength := (mapEach_eq_ok.mp idsRead).length_eq
  cases capturedIds with
  | nil => exact nonempty (length_eq_zero_iff.mp idsLength)
  | cons first rest =>
    exact not_mem_nil ((sameSet_iff.mp sameIds first).mp mem_cons_self)

theorem relocatedRecord_extents (manifest : Dict) (live : List Allocation)
    (model residual : List Dict) (bytes : Int) (changed : Bool) :
    let relocated := relocatedRecord manifest live model residual bytes changed
    (relocated.get "model_weight_extents").asDicts = some model ∧
      (relocated.get "residual_extents").asDicts = some residual ∧
      (changed = true → (relocated.get "requires_live_residual_snapshot").isTrue = true) := by
  cases changed <;> simp [relocatedRecord, Json.isTrue]

theorem CoversOnce.perm {left right : List Allocation} (perm : left.Perm right)
    (covers : CoversOnce left ranges) : CoversOnce right ranges := by
  intro point
  rw [covers point]
  simp [perm.mem_iff]

/-- Whenever the relocation returns another manifest than the saved one, its
extents tile the live pool, model extents follow their identity and, unless a
fresh residual snapshot is asked for, residual extents keep the saved stream. -/
theorem relocateSplitNativeManifest_tiles [Builtins] {manifest relocated : Dict}
    {allocations : List Allocation} {bindings : Bindings} {native : Bool}
    (returned : relocateSplitNativeManifest manifest allocations
      (bindings.relocationRanges native) (bindings.relocationSemantics native) = .ok relocated)
    (moved : relocated ≠ manifest) :
    ∃ savedModel savedResidual model residual,
      (manifest.get "model_weight_extents").asDicts = some savedModel ∧
      (manifest.get "residual_extents").asDicts = some savedResidual ∧
      (relocated.get "model_weight_extents").asDicts = some model ∧
      (relocated.get "residual_extents").asDicts = some residual ∧
      (∃ ranges, mapEach extentRange (model ++ residual) = .ok ranges ∧
        CoversOnce allocations ranges) ∧
      Forall₂ (fun saved placed => ∃ target,
        PlacedModelExtent (bindings.relocationSemantics native) saved placed target)
        savedModel model ∧
      ((relocated.get "requires_live_residual_snapshot").isTrue = false →
        Forall₂ SameRecord savedResidual residual) := by
  unfold relocateSplitNativeManifest at returned
  split at returned
  · cases returned
    exact absurd rfl moved
  · simp only [bind_eq_ok] at returned
    rcases returned with ⟨captured, _, layout, _, returned⟩
    split at returned
    · cases returned
      exact absurd rfl moved
    · split at returned
      · cases returned
        exact absurd rfl moved
      · split at returned
        · next modelListed residualListed =>
            rcases extentList_eq_some modelListed with ⟨modelRead, modelNonempty⟩
            rcases extentList_eq_some residualListed with ⟨residualRead, _⟩
            have bound := relocateExtents_bound modelNonempty returned
            rcases relocateExtents_eq_ok (by simp [Bindings.relocationRanges, bound]) returned
              with ⟨model, residual, bytes, changed, rfl, placed⟩
            rcases relocatedRecord_extents manifest _ model residual bytes changed with
              ⟨modelField, residualField, asks⟩
            rcases placed.covers with ⟨ranges, reads, covers⟩
            refine ⟨_, _, model, residual, modelRead, residualRead, modelField, residualField,
              ⟨ranges, reads, covers.perm (sortedOn_perm _ allocations)⟩, placed.model,
              fun unasked => placed.residual ?_⟩
            cases changed with
            | false => rfl
            | true => exact absurd (asks rfl) (by simp [unasked])
        · cases returned

def savedExample : Dict :=
  [("weight_source", .str "split-native"), ("portable_model_payload", .bool true),
    ("entries", .arr [.obj [("ptr", .int 4096), ("size", .int 8192), ("tag", .str "weights")]]),
    ("model_weight_extents", .arr [.obj [("ptr", .int 4096), ("size", .int 4096),
      ("allocation_ptr", .int 4096), ("offset", .int 0), ("semantic_id", .str
        "00112233445566778899aabbccddeeff00112233445566778899aabbccddeeff")]]),
    ("residual_extents", .arr [.obj [("ptr", .int 8192), ("size", .int 4096),
      ("allocation_ptr", .int 4096), ("offset", .int 0)]])]

def liveExample : List Allocation := [⟨20480, 8192, "weights"⟩]

def bindingsExample : Bindings :=
  ⟨[], [], [⟨24576, 4096, "00112233445566778899aabbccddeeff00112233445566778899aabbccddeeff"⟩]⟩

theorem relocateSplitNativeManifest_tiles_example :
    letI := Builtins.decimal
    ∃ relocated, relocateSplitNativeManifest savedExample liveExample
        (bindingsExample.relocationRanges true) (bindingsExample.relocationSemantics true) =
          .ok relocated ∧
      ∃ model residual ranges, (relocated.get "model_weight_extents").asDicts = some model ∧
        (relocated.get "residual_extents").asDicts = some residual ∧
        mapEach extentRange (model ++ residual) = .ok ranges ∧
        CoversOnce liveExample ranges := by
  let _ := Builtins.decimal
  have returned : relocateSplitNativeManifest savedExample liveExample
      (bindingsExample.relocationRanges true) (bindingsExample.relocationSemantics true) =
        .ok _ := rfl
  have moved : ∀ relocated : Dict,
      (relocated.get "relocated_from_captured_va").isTrue = true → relocated ≠ savedExample := by
    intro relocated marked equal
    subst equal
    exact absurd marked (by decide)
  rcases relocateSplitNativeManifest_tiles returned (moved _ (by decide)) with
    ⟨_, _, model, residual, _, _, modelRead, residualRead, ⟨ranges, reads, covers⟩, _⟩
  exact ⟨_, returned, model, residual, ranges, modelRead, residualRead, reads, covers⟩

end Coldsnap.DiskBackend
