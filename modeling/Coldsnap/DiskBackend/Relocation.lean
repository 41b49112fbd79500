import Coldsnap.DiskBackend.Coverage

/-! # Relocating a portable native manifest

`_relocate_split_native_manifest` moves a saved model payload onto the address
layout of a fresh process. Model extents follow their semantic identity;
residual extents follow the ordered stream of live gaps.
-/

namespace Coldsnap.DiskBackend

open Python Intervals Checked

def capturedLayout [Builtins] (entry : Dict) : Checked (Int × Int × Json) := do
  let pointer ← (entry.getD "ptr" (.int (-1))).toInt
  let size ← (entry.getD "size" (.int (-1))).toInt
  return (pointer, size, entry.get "tag")

def sameLayout : List (Int × Int × Json) → List Allocation → Bool
  | [], [] => true
  | (pointer, size, tag) :: captured, allocation :: live =>
    pointer == allocation.pointer && size == allocation.size
      && tag.equal (.str allocation.tag) && sameLayout captured live
  | _, _ => false

def capturedRange [Builtins] (spans : List (Int × Int)) (entry : Dict) :
    Checked (List (Int × Int)) := do
  let pointer ← entry.int "ptr"
  let size ← entry.int "size"
  require
    (!(pointer < 0 || size ≤ 0 || !(entry.get "tag").equal (.str preservedRegion)
      || spans.any fun span => span.1 = pointer))
    (valueError "")
  return spans ++ [(pointer, pointer + size)]

def liveRange (allocation : Allocation) : Checked (Int × Int) := do
  require
    (!(allocation.pointer < 0 || allocation.size ≤ 0 || allocation.tag != preservedRegion))
    (valueError "")
  return allocation.range

def inOrder : List (Int × Int) → Bool
  | first :: second :: rest => !(second.1 < first.2) && inOrder (second :: rest)
  | _ => true

variable (live : List (Int × Int))

def containingLiveAllocation (pointer size : Int) : Checked Int :=
  match live.filter fun span => span.1 ≤ pointer && pointer + size ≤ span.2 with
  | [span] => .ok span.1
  | _ => .error (runtimeError "portable native relocated extent crosses a live allocation boundary")

def validateCapturedExtent [Builtins] (spans : List (Int × Int)) (extent : Dict) :
    Checked Placement :=
  rescue [.keyError, .typeError, .valueError]
    (runtimeError "portable native extent does not belong to a captured allocation")
    (readPlacement spans extent)

def placeExtent (source : Dict) (pointer size : Int) : Checked Dict := do
  let owner ← containingLiveAllocation live pointer size
  return (source.set "ptr" (.int pointer)).set "allocation_ptr" (.int owner)

def skipFull : List (Int × Int) → Int → List (Int × Int) × Int
  | [], offset => ([], offset)
  | destination :: rest, offset =>
    if offset = destination.2 then skipFull rest 0 else (destination :: rest, offset)

structure Stream where
  destinations : List (Int × Int)
  offset : Int
  placed : List (Nat × Dict)

def Stream.find (stream : Stream) (index : Nat) : Option Dict :=
  (stream.placed.find? fun entry => entry.1 = index).map Prod.snd

def streamExtent [Builtins] (label : String) (stream : Stream) (item : Dict × Nat) :
    Checked Stream := do
  let size ← item.1.int "size"
  match skipFull stream.destinations stream.offset with
  | ([], _) => .error (runtimeError s!"portable native {label} bytes exceed the live layout")
  | (destination :: rest, offset) => do
    require (!(destination.2 - offset < size)) (runtimeError
      s!"portable native {label} extent would cross a live range boundary")
    let extent ← placeExtent live item.1 (destination.1 + offset) size
    return ⟨destination :: rest, offset + size, stream.placed ++ [(item.2, extent)]⟩

def relocateStream [Builtins] (sources : List Dict)
    (destinations : List (Int × Int)) (label : String) : Checked (List Dict) := do
  let ordered ← sortedBy (fun item : Dict × Nat => item.1.int "ptr") sources.zipIdx
  let final ← foldEach (streamExtent live label) ⟨destinations, 0, []⟩ ordered
  require ((skipFull final.destinations final.offset).1 = [])
    (runtimeError s!"portable native {label} bytes do not cover the live layout")
  return sources.zipIdx.filterMap fun item => final.find item.2

def liveResidual (model : List Placement) : List (Int × Int) → Checked (List (Int × Int))
  | [] => .ok []
  | span :: spans => do
    let inside := sortedOn (fun range : Int × Int => toLex range) (ownedBy span.1 model)
    let pieces ← gaps (runtimeError "portable native live model ranges overlap") span inside
    let rest ← liveResidual model spans
    return pieces ++ rest

def gapSize (piece : Int × Int) : Int × Int := (piece.1, piece.2 - piece.1)

/-- The last binding of an identity, as a dictionary comprehension keeps it. -/
def liveModelBySemanticId (semantics : List SemanticRange) (semanticId : String) :
    Option SemanticRange :=
  semantics.reverse.find? fun item => item.semanticId = semanticId

def relocateModelExtent [Builtins] (semantics : List SemanticRange)
    (source : Dict) : Checked Dict := do
  let semanticId ← source.item "semantic_id"
  match liveModelBySemanticId semantics semanticId.toText with
  | none => .error (keyError semanticId.toText)
  | some target => do
    let size ← source.int "size"
    require (size = target.size) (runtimeError
      "portable native semantic model extent size differs from the live model")
    placeExtent live source target.pointer target.size

def residualRecord (piece : Int × Int) : Checked Dict := do
  let owner ← containingLiveAllocation live piece.1 (piece.2 - piece.1)
  return [("ptr", .int piece.1), ("size", .int (piece.2 - piece.1)), ("allocation_ptr", .int owner)]

def relocateResidual [Builtins] (extents : List Dict)
    (pieces : List (Int × Int)) (residualLayoutChanged : Bool) : Checked (List Dict) :=
  if residualLayoutChanged then
    mapEach (residualRecord live) pieces
  else
    relocateStream live extents (pieces.map gapSize) "residual"

def sumSizes [Builtins] (extents : List Dict) : Checked Int := do
  let sizes ← mapEach (fun extent : Dict => extent.int "size") extents
  return sizes.sum

def entryRecord (allocation : Allocation) : Json :=
  .obj [("ptr", .int allocation.pointer), ("size", .int allocation.size),
    ("tag", .str allocation.tag)]

def modelPlacement (range : Int × Int) : Checked Placement := do
  let owner ← containingLiveAllocation live range.1 range.2
  return ⟨owner, span range⟩

def semanticIdText [Builtins] (extent : Dict) : Checked String := do
  let semanticId ← extent.item "semantic_id"
  return semanticId.toText

/-- The relocated manifest: a copy of the saved one with its address fields
rewritten. -/
def relocatedRecord (manifest : Dict) (live : List Allocation) (model residual : List Dict)
    (residualBytes : Int) (residualLayoutChanged : Bool) : Dict :=
  let relocated := (((((manifest.set "entries" (.arr (live.map entryRecord))).set
    "model_weight_extents" (.arr (model.map .obj))).set
    "residual_extents" (.arr (residual.map .obj))).set
    "allocation_bytes" (.int (live.map Allocation.size).sum)).set
    "residual_bytes" (.int residualBytes)).set
    "relocated_from_captured_va" (.bool true)
  if residualLayoutChanged then
    relocated.set "requires_live_residual_snapshot" (.bool true)
  else relocated

def extentList (value : Json) : Option (List Dict) :=
  match value.asDicts with
  | some (extent :: extents) => some (extent :: extents)
  | _ => none

def relocateExtents [Builtins] (manifest : Dict) (captured : List Dict)
    (live : List Allocation) (modelExtents residualExtents : List Dict)
    (ranges : List (Int × Int)) (semantics : List SemanticRange) : Checked Dict := do
  let capturedSpans ← rescue [.keyError, .typeError, .valueError]
    (runtimeError "portable native captured allocations are invalid")
    (foldEach capturedRange [] captured)
  let liveSpans ← rescue [.attributeError, .typeError, .valueError]
    (runtimeError "portable native live allocations are invalid")
    (mapEach liveRange live)
  require (liveSpans ≠ []) (runtimeError "portable native live allocation map is empty")
  require (inOrder liveSpans) (runtimeError "portable native live allocations overlap")
  let placements ← mapEach (validateCapturedExtent capturedSpans) (modelExtents ++ residualExtents)
  require (allTiled capturedSpans placements)
    (runtimeError "portable native captured extents do not cover allocations")
  let liveModel := sortedOn (fun range : Int × Int => toLex range) ranges
  require
    (liveModel ≠ [] && !liveModel.any fun range => range.1 < 0 || range.2 ≤ 0)
    (runtimeError "portable native model extents differ from the live model layout")
  let modelPlacements ← mapEach (modelPlacement liveSpans) liveModel
  let pieces ← liveResidual modelPlacements liveSpans
  require (pieces ≠ []) (runtimeError "portable native live layout has no residual ranges")
  let capturedIds ← rescue [.keyError, .typeError, .valueError]
    (runtimeError "portable native semantic model layout is invalid")
    (mapEach semanticIdText modelExtents)
  let liveIds := semantics.map SemanticRange.semanticId
  require
    (capturedIds.dedup.length == modelExtents.length
      && liveIds.dedup.length == semantics.length
      && sameSet capturedIds liveIds
      && sameSet (semantics.map fun item => (item.pointer, item.size)) liveModel)
    (runtimeError "portable native semantic model layout differs from the live model")
  let model ← mapEach (relocateModelExtent liveSpans semantics) modelExtents
  let capturedResidualBytes ← sumSizes residualExtents
  let liveResidualBytes := (pieces.map fun piece => piece.2 - piece.1).sum
  let residualLayoutChanged : Bool := capturedResidualBytes ≠ liveResidualBytes
  let residual ← relocateResidual liveSpans residualExtents pieces residualLayoutChanged
  return relocatedRecord manifest live model residual liveResidualBytes residualLayoutChanged

def relocateSplitNativeManifest [Builtins] (manifest : Dict) (allocations : List Allocation)
    (ranges : List (Int × Int)) (semantics : List SemanticRange) : Checked Dict :=
  match (manifest.get "entries").asDicts with
  | none => .ok manifest
  | some entries => do
    let captured ← sortedBy (fun entry : Dict => (entry.getD "ptr" (.int (-1))).toInt) entries
    let live := sortedOn Allocation.pointer allocations
    let layout ← mapEach capturedLayout captured
    if sameLayout layout live then
      return manifest
    else if !(manifest.get "weight_source").equal (.str weightSourceSplitNative)
        || !(manifest.get "portable_model_payload").isTrue then
      return manifest
    else
      match extentList (manifest.get "model_weight_extents"),
          extentList (manifest.get "residual_extents") with
      | some modelExtents, some residualExtents =>
        relocateExtents manifest captured live modelExtents residualExtents ranges semantics
      | _, _ => .error (runtimeError "portable native manifest has invalid extents")

end Coldsnap.DiskBackend
