import Coldsnap.DiskBackend.Relocation
import Coldsnap.Foundation.Sweep

/-! # Partitioning the weight pool

`_partition_semantic_weight_extents` splits the pool into the model ranges of a
layout and the residual gaps between them. `_shared_residual_extents` cuts the
residuals of several layouts into pieces which each layout can reference.
-/

namespace Coldsnap.DiskBackend

open Python Intervals Checked

/-- An extent of the pool, with the fields the writers add to it. -/
structure Extent where
  ptr : Int
  size : Int
  allocationPtr : Int
  semanticId : Option String := none
  sha256 : Option String := none
  offset : Int := 0
  crc32 : Option String := none
deriving DecidableEq, Repr

namespace Extent

def range (extent : Extent) : Int × Int := (extent.ptr, extent.ptr + extent.size)

def placement (extent : Extent) : Placement := ⟨extent.allocationPtr, extent.range⟩

def field (name : String) : Option String → Dict
  | none => []
  | some text => [(name, .str text)]

def layoutDict (extent : Extent) : Dict :=
  [("ptr", .int extent.ptr), ("size", .int extent.size),
    ("allocation_ptr", .int extent.allocationPtr)]
  ++ field "semantic_id" extent.semanticId

def toDict (extent : Extent) : Dict :=
  extent.layoutDict ++ field "sha256" extent.sha256 ++ [("offset", .int extent.offset)]
    ++ field "crc32" extent.crc32

end Extent

structure OwnedRange where
  owner : Int
  item : SemanticRange
deriving DecidableEq, Repr

def owningAllocation (label : String) (allocations : List Allocation) (item : SemanticRange) :
    Checked Allocation :=
  match allocations.filter fun allocation =>
      allocation.pointer ≤ item.pointer && item.stop ≤ allocation.stop with
  | [allocation] => .ok allocation
  | _ => .error (runtimeError s!"{label} range does not resolve to one weight allocation")

def placeSemanticRange (label : String) (allocations : List Allocation)
    (state : (Int × List String) × List OwnedRange) (item : SemanticRange) :
    Checked ((Int × List String) × List OwnedRange) := do
  let seen ← checkSemanticRange (runtimeError s!"{label} semantic ranges are invalid") state.1 item
  let owner ← owningAllocation label allocations item
  return (seen, state.2 ++ [⟨owner.pointer, item⟩])

def semanticRangesOf (placed : List OwnedRange) (pointer : Int) : List SemanticRange :=
  sortedOn (fun item : SemanticRange =>
      (toLex (item.pointer, toLex (item.stop, item.semanticId)) : Int ×ₗ Int ×ₗ String))
    ((placed.filter fun range => range.owner = pointer).map OwnedRange.item)

def modelExtent (owner : Int) (item : SemanticRange) : Extent :=
  { ptr := item.pointer, size := item.stop - item.pointer, allocationPtr := owner
    semanticId := some item.semanticId }

def residualExtent (owner : Int) (piece : Int × Int) : Extent :=
  { ptr := piece.1, size := piece.2 - piece.1, allocationPtr := owner }

/-- The model extents of one allocation and the gaps around them. -/
def partitionAllocation (label : String) (placed : List OwnedRange) (allocation : Allocation) :
    Checked (List Extent × List Extent) := do
  let inside := semanticRangesOf placed allocation.pointer
  let pieces ← gaps (runtimeError s!"{label} semantic ranges overlap") allocation.range
    (inside.map SemanticRange.range)
  return (inside.map (modelExtent allocation.pointer),
    pieces.map (residualExtent allocation.pointer))

def partitionSemanticWeightExtents (allocations : List Allocation)
    (layout : List SemanticRange) (label : String) : Checked (List Extent × List Extent) := do
  require (layout ≠ []) (runtimeError s!"{label} has no semantic layout")
  let placed ← foldEach (placeSemanticRange label allocations) ((0, []), [])
    (sortedOn SemanticRange.key layout)
  let parts ← mapEach (partitionAllocation label placed.2) allocations
  let model := parts.flatMap Prod.fst
  let residual := parts.flatMap Prod.snd
  require (model ≠ [] && residual ≠ [])
    (runtimeError s!"{label} requires model and residual byte ranges")
  return (model, residual)

/-- The ends of the extents of all views inside one allocation, in the order in
which the source meets them. -/
def viewChanges (views : List (List Extent)) (allocation : Int) : List (Int × Nat × Int) :=
  views.zipIdx.flatMap fun view =>
    (view.1.filter fun extent => extent.allocationPtr = allocation).flatMap fun extent =>
      [(extent.ptr, view.2, 1), (extent.ptr + extent.size, view.2, -1)]

def applyChange (active : List Int) (change : Nat × Int) : Checked (List Int) := do
  let value := active.getD change.1 0 + change.2
  require (value = 0 || value = 1) (runtimeError "residual view contains overlapping ranges")
  return active.set change.1 value

/-- A stored piece, and for each view whether it references the piece. -/
structure SharedPiece where
  extent : Extent
  present : List Bool
deriving DecidableEq

structure SweepState where
  active : List Int
  previous : Int
  stored : List SharedPiece

def sweepPoint (allocation : Int) (changes : List (Int × Nat × Int)) (state : SweepState)
    (point : Int) : Checked SweepState := do
  let piece : SharedPiece := ⟨residualExtent allocation (state.previous, point),
    state.active.map fun open_ => open_ ≠ 0⟩
  let active ← foldEach applyChange state.active (arriving changes point)
  return ⟨active, point,
    if state.previous < point && state.active.any fun open_ => open_ ≠ 0 then
      state.stored ++ [piece]
    else state.stored⟩

def sweepPoints (changes : List (Int × Nat × Int)) : List Int :=
  sortedOn id (changes.map Prod.fst).dedup

def sweepAllocation (views : List (List Extent)) (stored : List SharedPiece)
    (allocation : Int) : Checked (List SharedPiece) := do
  let changes := viewChanges views allocation
  let points := sweepPoints changes
  let final ← foldEach (sweepPoint allocation changes)
    ⟨List.replicate views.length 0, points.headD 0, stored⟩ points
  return final.stored

def sharedResidualExtents (views : List (List Extent)) : Checked (List SharedPiece) :=
  foldEach (sweepAllocation views) []
    (sortedOn id ((views.flatMap id).map Extent.allocationPtr).dedup)

def references (pieces : List SharedPiece) (view : Nat) : List Extent :=
  (pieces.filter fun piece => piece.present.getD view false).map SharedPiece.extent

def packedExtentBytes (extents : List Extent) : Int :=
  (extents.map fun extent => alignUp extent.size).sum

end Coldsnap.DiskBackend
