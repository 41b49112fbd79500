import Coldsnap.DiskBackend.SplitNativeCorrect

/-! # Residuals shared by two layouts

The pieces which are stored for two layouts of one pool: what they tile, who references them,
and that the loader accepts the places they are written to.
-/

namespace Coldsnap.DiskBackend

open Python Intervals Program List

variable {views : List (List Extent)}

theorem steps_pairwise {points : List Int} (ascending : points.Pairwise (· < ·)) :
    (steps points).Pairwise Before := by
  fun_induction steps points with
  | case1 first second rest induction =>
    have later := (pairwise_cons.mp ascending).2
    apply Pairwise.cons _ (induction later)
    exact fun step member => head_le later _ (steps_mem member).1
  | case2 => exact .nil

theorem Pool.tidy (pool : Pool) : Tidy (pool.allocations.map Allocation.range) := by
  refine ⟨fun span member => ?_, pairwise_map.mpr pool.apart⟩
  rcases mem_map.mp member with ⟨allocation, listed, rfl⟩
  have size := pool.size_pos allocation listed
  refine ⟨pool.pointer_pos allocation listed, ?_⟩
  simp only [Allocation.range, Allocation.stop]
  omega

/-- Stored pieces do not overlap: in one allocation they follow each other, and the
allocations lie apart. -/
theorem sharedPieces_apart {pool : Pool}
    (inside : ∀ view ∈ views, ∀ extent ∈ view, 0 < extent.size ∧ extent.Inside pool.allocations) :
    (sharedPieces views).Pairwise fun left right =>
      Apart left.extent.range right.extent.range := by
  have held := sharedPieces_inside pool.tidy.pointers_nodup inside
  apply pairwise_flatMap.mpr
  constructor
  · intro owner _
    rw [sweptPieces, pairwise_map]
    apply ((steps_pairwise (sweptPoints_ascending _ _)).filter _).imp
    intro left right before
    simp only [sweptPiece, residualExtent_range]
    exact before.apart
  · apply (sharedOwners_nodup views).imp_of_mem
    intro first second atFirst atSecond different left fromFirst right fromSecond
    rcases (held left (mem_flatMap.mpr ⟨first, atFirst, fromFirst⟩)).2 with
      ⟨one, oneMember, oneOwns, oneStarts, oneStops⟩
    rcases (held right (mem_flatMap.mpr ⟨second, atSecond, fromSecond⟩)).2 with
      ⟨two, twoMember, twoOwns, twoStarts, twoStops⟩
    rcases mem_map.mp fromFirst with ⟨_, _, rfl⟩
    rcases mem_map.mp fromSecond with ⟨_, _, rfl⟩
    have distinct : one ≠ two := by
      rintro rfl
      exact different (oneOwns.trans twoOwns.symm)
    have symmetric : Std.Symm fun left right : Allocation => Apart left.range right.range :=
      ⟨fun _ _ away => away.symm⟩
    intro point both
    apply pool.apart.forall oneMember twoMember distinct point
    simp only [Contains, Extent.range, Allocation.range] at both ⊢
    omega

/-- Every stored piece is referenced. -/
theorem sharedPieces_referenced {piece : SharedPiece} (member : piece ∈ sharedPieces views) :
    ∃ view < views.length, piece.extent ∈ references (sharedPieces views) view := by
  rcases mem_flatMap.mp member with ⟨owner, _, swept⟩
  rcases mem_map.mp swept with ⟨step, stepMember, rfl⟩
  rcases any_eq_true.mp (mem_filter.mp stepMember).2 with ⟨level, levelMember, opened⟩
  rcases mem_map.mp levelMember with ⟨view, inside, rfl⟩
  have bound := mem_range.mp inside
  refine ⟨view, bound, mem_map_of_mem (mem_filter.mpr ⟨member, ?_⟩)⟩
  simpa [sweptPiece, levels, getD_eq_getElem?_getD, bound] using opened

def assignedPieces (memory : Int → UInt8) (pieces : List SharedPiece) : List SharedPiece :=
  writtenPieces pieces
    ((assignOffsets 0 (pieces.map SharedPiece.extent)).map (Extent.recorded memory))

/-- The pieces which are stored once for two layouts of a pool: they lie apart, each is
referenced, and for either layout the referenced pieces tile what its model ranges leave of
the pool and are accepted by the loader where they are written. -/
structure StoredOnce [Builtins] (pool : Pool) (model : Fin 2 → List Extent)
    (pieces : List SharedPiece) (memory : Int → UInt8) : Prop where
  apart : pieces.Pairwise fun left right => Apart left.extent.range right.extent.range
  referenced : ∀ piece ∈ pieces, ∃ view : Fin 2, piece.extent ∈ references pieces view
  covers : ∀ view : Fin 2, ∀ allocation ∈ pool.allocations, ∀ point,
    ownedCount allocation.pointer (model view) point +
      ownedCount allocation.pointer (references pieces view) point =
        coverCount [allocation.range] point
  placements : ∀ view : Fin 2,
    (references (assignedPieces memory pieces) view).map Extent.placement =
      (references pieces view).map Extent.placement
  validates : ∀ view : Fin 2, validateResidualFileExtents
    ((references (assignedPieces memory pieces) view).map Extent.toDict)
    (packedExtentBytes (pieces.map SharedPiece.extent)) (.str residualLayoutShared) = .ok ()

/-- For two accepted layouts the sweep returns, and what it returns is stored once. -/
theorem shared_residuals_tile [Builtins] {pool : Pool} {layouts : Fin 2 → List SemanticRange}
    {labels : Fin 2 → String} {model residual : Fin 2 → List Extent}
    (accepted : ∀ view, partitionSemanticWeightExtents pool.allocations (layouts view)
      (labels view) = .ok (model view, residual view)) (memory : Int → UInt8) :
    ∃ pieces, sharedResidualExtents [residual 0, residual 1] = .ok pieces ∧
      StoredOnce pool model pieces memory := by
  have partitions : ∀ view, Partitions pool.allocations (model view) (residual view) :=
    fun view => partitionSemanticWeightExtents_partitions pool.tidy.pointers_nodup pool.size_pos
      (accepted view)
  have residualViews : ∀ view ∈ [residual 0, residual 1], ResidualView view :=
    forall_mem_cons.mpr ⟨(partitions 0).residualView,
      forall_mem_singleton.mpr (partitions 1).residualView⟩
  refine ⟨_, sharedResidualExtents_eq_ok residualViews, ?_⟩
  have each : ∀ view, ∀ extent ∈ residual view,
      0 < extent.size ∧ extent.Inside pool.allocations := fun view extent member =>
    ⟨(partitions view).positive _ (mem_append_right _ member),
      (partitions view).inside _ (mem_append_right _ member)⟩
  have inside : ∀ view ∈ [residual 0, residual 1], ∀ extent ∈ view,
      0 < extent.size ∧ extent.Inside pool.allocations :=
    forall_mem_cons.mpr ⟨each 0, forall_mem_singleton.mpr (each 1)⟩
  have views : ∀ view : Fin 2, [residual 0, residual 1].getD view [] = residual view :=
    Fin.forall_fin_two.mpr ⟨rfl, rfl⟩
  have referenced : ∀ (view : Fin 2) (owner point : Int),
      ownedCount owner (references (sharedPieces [residual 0, residual 1]) view) point =
        ownedCount owner (residual view) point := by
    intro view owner point
    rw [← views view]
    exact ownedCount_references view.isLt (views view ▸ (partitions view).residualView) ..
  have pointers := pool.tidy.pointers_nodup
  have placed := sharedPieces_inside pointers inside
  have member := @sharedPieces_referenced [residual 0, residual 1]
  have away := sharedPieces_apart inside
  revert referenced placed member away
  generalize sharedPieces [residual 0, residual 1] = pieces
  intro referenced placed member away
  have positive : ∀ extent ∈ pieces.map SharedPiece.extent, extent.Positive := by
    rw [forall_mem_map]
    exact fun piece listed => (placed piece listed).1
  have nonempty : pieces ≠ [] := by
    rintro rfl
    rcases exists_mem_of_ne_nil _ (partitions 0).residual_nonempty with ⟨extent, member⟩
    have absent := (referenced 0 extent.allocationPtr extent.ptr).symm
    rw [ownedCount, ownedBy_eq_filter] at absent
    have size := (partitions 0).positive extent (mem_append_right _ member)
    apply countP_eq_zero.mp absent extent.range
    · exact mem_map_of_mem (mem_filter.mpr ⟨member, decide_eq_true rfl⟩)
    · simpa [Contains, Extent.range] using size
  have run := paddedRun_assigned memory positive (Int.zero_emod 4096)
  rw [zero_add] at run
  refine ⟨away, ?_, fun view => ?_, fun view => ?_, fun view => ?_⟩
  · intro piece listed
    rcases member listed with ⟨view, bound, referenced⟩
    exact ⟨⟨view, bound⟩, referenced⟩
  · intro allocation member point
    rw [referenced]
    exact (partitions view).covers allocation member point
  · exact (references_written (assigned_placements memory pieces) view).1
  · apply (run.sublist (references_written (assigned_placements memory pieces) view).2).validates
    · apply run.fileBytes_pos
      cases pieces with
      | nil => exact absurd rfl nonempty
      | cons piece pieces => exact cons_ne_nil _ _
    · exact packedExtentBytes_mod _

def pagePool : Pool where
  allocations := [⟨4096, 16, "weights"⟩]
  pointer_pos := by decide
  size_pos := by decide
  apart := pairwise_singleton _ _

/-- The model bytes 2 to 5 of a page, and its model bytes 4 to 8. -/
def pageLayouts : Fin 2 → List SemanticRange
  | 0 => [⟨4098, 3, String.ofList (replicate 64 'a')⟩]
  | 1 => [⟨4100, 4, String.ofList (replicate 64 'b')⟩]

def pageResiduals : Fin 2 → List Extent
  | 0 => [residualExtent 4096 (4096, 4098), residualExtent 4096 (4101, 4112)]
  | 1 => [residualExtent 4096 (4096, 4100), residualExtent 4096 (4104, 4112)]

/-- Each layout cuts a residual extent of the other one. -/
def pagePieces : List SharedPiece :=
  [⟨residualExtent 4096 (4096, 4098), [true, true]⟩,
    ⟨residualExtent 4096 (4098, 4100), [false, true]⟩,
    ⟨residualExtent 4096 (4101, 4104), [true, false]⟩,
    ⟨residualExtent 4096 (4104, 4112), [true, true]⟩]

theorem shared_residuals_page :
    (∀ view, partitionSemanticWeightExtents pagePool.allocations (pageLayouts view) "page" =
      .ok ((pageLayouts view).map (modelExtent 4096), pageResiduals view)) ∧
    sharedResidualExtents [pageResiduals 0, pageResiduals 1] = .ok pagePieces ∧
    @StoredOnce Builtins.decimal pagePool (fun view => (pageLayouts view).map (modelExtent 4096))
      pagePieces fun _ => 0 := by
  have accepted : ∀ view, partitionSemanticWeightExtents pagePool.allocations (pageLayouts view)
      "page" = .ok ((pageLayouts view).map (modelExtent 4096), pageResiduals view) := by
    decide +kernel
  have returned : sharedResidualExtents [pageResiduals 0, pageResiduals 1] = .ok pagePieces := by
    decide +kernel
  rcases @shared_residuals_tile Builtins.decimal pagePool pageLayouts (fun _ => "page") _ _
    accepted fun _ => 0 with ⟨pieces, same, stored⟩
  cases returned.symm.trans same
  exact ⟨accepted, returned, stored⟩

end Coldsnap.DiskBackend
