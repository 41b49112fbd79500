import Coldsnap.Foundation.Chunks
import Coldsnap.Recovery.Checkpoint

/-! # Sharing the reads of a checkpoint

`_owners`, `_descriptor_batches`, `_storage_views`, `_coalesced_extents` and
`_broadcast_slab_regions`: which rank reads which tensor, where the tensors of a
batch lie in the staging slab, and which parts of the slab are broadcast.
-/

namespace Coldsnap.Recovery

open Python Chunks Checked List

/-- The arithmetic of floats: the double next to a rational number. -/
class Doubles where
  round : Rat → Rat

/-- A computation along the physical order, its results in the given order. -/
def alongFile {β : Type} (physicalOrder : Bool) (compute : List SafetensorDescriptor → List β)
    (descriptors : List SafetensorDescriptor) : List β :=
  let order := if physicalOrder
    then sortedOn (fun item : SafetensorDescriptor × Nat => item.1.fileOffset) descriptors.zipIdx
    else descriptors.zipIdx
  (sortedOn Prod.fst ((order.map Prod.snd).zip (compute (order.map Prod.fst)))).map Prod.snd

/-- The offsets behind each item, and the one before the first. -/
def prefixSums (start : Nat) : List Nat → List Nat
  | [] => [start]
  | size :: sizes => start :: prefixSums (start + size) sizes

def closest (distance : Nat → Rat) : (best : Nat) → List Nat → Nat
  | best, [] => best
  | best, candidate :: candidates =>
    closest distance (if distance candidate < distance best then candidate else best) candidates

section Owners

variable [Doubles]

def boundary (sums : List Nat) (target : Rat) (lower : Nat) : Nat :=
  closest (fun index => abs (Doubles.round (Doubles.round (sums.getD index 0) - target))) lower
    (range' (lower + 1) (sums.length - (lower + 1)))

def boundaries (sums : List Nat) (total worldSize : Nat) : Nat → List Nat → List Nat
  | _, [] => []
  | lower, partition :: partitions =>
    let next := boundary sums (Doubles.round (total * partition / worldSize)) lower
    next :: boundaries sums total worldSize next partitions

def fillOwners (worldSize rotation : Nat) : (partition start : Nat) → List Nat → List Nat
  | _, _, [] => []
  | partition, start, stop :: stops =>
    replicate (stop - start) ((partition + rotation) % worldSize) ++
      fillOwners worldSize rotation (partition + 1) stop stops

def owners (descriptors : List SafetensorDescriptor) (worldSize rotation : Nat)
    (physicalOrder : Bool) : Checked (List Nat) := do
  require (0 < worldSize) (valueError "recovery loader world size must be positive")
  return alongFile physicalOrder (fun ordered =>
    let sizes := ordered.map SafetensorDescriptor.length
    fillOwners worldSize rotation 0 0
      (boundaries (prefixSums 0 sizes) sizes.sum worldSize 0 (range' 1 (worldSize - 1)) ++
        [ordered.length])) descriptors

end Owners

def batchesFrom (maxBytes : Nat) (fileNames : List String) :
    (index start batchBytes : Nat) → List SafetensorDescriptor → List (Nat × Nat)
  | index, start, _, [] => if start < index then [(start, index)] else []
  | index, start, batchBytes, descriptor :: descriptors =>
    if descriptor.name ∈ fileNames then
      (if start < index then [(start, index)] else []) ++
        (index, index + 1) :: batchesFrom maxBytes fileNames (index + 1) (index + 1) 0 descriptors
    else if start < index ∧ maxBytes < batchBytes + descriptor.length then
      (start, index) ::
        batchesFrom maxBytes fileNames (index + 1) index descriptor.length descriptors
    else batchesFrom maxBytes fileNames (index + 1) start (batchBytes + descriptor.length)
      descriptors

def descriptorBatches (descriptors : List SafetensorDescriptor) (maxBytes : Nat)
    (fileNames : List String) : List (Nat × Nat) :=
  batchesFrom maxBytes fileNames 0 0 0 descriptors

def cut {α : Type} (items : List α) (range : Nat × Nat) : List α :=
  (items.drop range.1).take (range.2 - range.1)

def storageViews (physicalOrder : Bool) (descriptors : List SafetensorDescriptor) : List Nat :=
  alongFile physicalOrder (fun ordered =>
    (prefixSums 0 (ordered.map SafetensorDescriptor.length)).take ordered.length) descriptors

/-- A tensor of a batch, its owner and its offset in the slab. -/
structure Staged where
  descriptor : SafetensorDescriptor
  owner : Int
  offset : Nat
deriving DecidableEq, Repr

structure Extent where
  fileOffset : Nat
  destination : Int
  length : Nat
deriving DecidableEq, Repr

/-- An extent joins the last one if it continues it in the file and in memory. -/
def appendExtent (extents : List Extent) (extent : Extent) : List Extent :=
  match extents.getLast? with
  | none => [extent]
  | some last =>
    if last.fileOffset + last.length = extent.fileOffset ∧
        last.destination + last.length = extent.destination then
      extents.dropLast ++ [⟨last.fileOffset, last.destination, last.length + extent.length⟩]
    else extents ++ [extent]

def coalescedExtents (batch : List Staged) (base : Int) (rank : Nat) : List Extent :=
  ((sortedOn (fun row : Staged => row.descriptor.fileOffset)
    (batch.filter fun row => row.owner = rank ∧ 0 < row.descriptor.length)).map fun row =>
      ⟨row.descriptor.fileOffset, base + row.offset, row.descriptor.length⟩).foldl appendExtent []

structure Region where
  offset : Nat
  length : Nat
  owner : Int
deriving DecidableEq, Repr

/-- A region joins the last one if it has the same owner and continues it. -/
def appendRegion (regions : List Region) (region : Region) : List Region :=
  match regions.getLast? with
  | none => [region]
  | some last =>
    if last.owner = region.owner ∧ last.offset + last.length = region.offset then
      regions.dropLast ++ [⟨last.offset, last.length + region.length, region.owner⟩]
    else regions ++ [region]

def slabRegions (batch : List Staged) : List Region :=
  (sortedOn (fun region : Region => toLex (region.offset, toLex (region.length, region.owner)))
    ((batch.filter fun row => 0 < row.descriptor.length).map fun row =>
      ⟨row.offset, row.descriptor.length, row.owner⟩)).foldl appendRegion []

structure Broadcast where
  source : Int
  offset : Nat
  size : Nat
deriving DecidableEq, Repr

def broadcastSlabRegions (batch : List Staged) (maxChunkBytes : Nat) : List Broadcast :=
  (slabRegions batch).flatMap fun region =>
    (chunks maxChunkBytes region.length).map fun piece =>
      ⟨region.owner, region.offset + piece.1, piece.2⟩

/-- A tensor whose place in the file is handed on, or tensors which share a slab. -/
inductive Batch where
  | fileSource (descriptor : SafetensorDescriptor)
  | staged (rows : List Staged)
deriving DecidableEq, Repr

def Batch.broadcasts (source : Source) : Batch → List Broadcast
  | .fileSource _ => []
  | .staged rows => broadcastSlabRegions rows source.collectiveBytes

section Plan

variable [Builtins] [Doubles] (source : Source)

def checkedElements (shape : List Int) (name : String) : Checked Int :=
  foldEach (fun elements dimension => do
    require (0 ≤ dimension)
      (runtimeError s!"negative safetensors dimension for {Builtins.render (.str name)}")
    require (dimension = 0 || elements ≤ 9223372036854775807 / dimension)
      (runtimeError s!"safetensors shape overflows for {Builtins.render (.str name)}")
    return elements * dimension) 1 shape

def checkView (row : Staged) : Checked Unit := do
  let size ← (source.elementSize row.descriptor.dtypeName).elim
    (.error (runtimeError
      s!"installed torch lacks safetensors dtype {row.descriptor.dtypeName}")) .ok
  let elements ← checkedElements row.descriptor.shape row.descriptor.name
  require (elements * size = row.descriptor.length)
    (runtimeError (s!"safetensors byte length mismatch for " ++
      Builtins.render (.str row.descriptor.name) ++
      s!": header={row.descriptor.length} shape={elements * size}"))
  require (row.offset % size = 0)
    (runtimeError "self.storage_offset() must be divisible by the element size")

def ownerByName (ordinary : List SafetensorDescriptor) (owners : List Nat) (name : String) : Int :=
  match ((ordinary.map SafetensorDescriptor.name).zip owners).reverse.find? fun item =>
      item.1 = name with
  | some item => item.2
  | none => -1

def planBatch (fileNames : List String) (rows : List (SafetensorDescriptor × Int)) :
    Checked Batch := do
  match rows with
  | [] => .error ⟨.typeError, "list index out of range"⟩
  | first :: _ =>
    if first.1.name ∈ fileNames then return .fileSource first.1
    else
      let staged := (rows.zip (storageViews true (rows.map Prod.fst))).map fun row =>
        (⟨row.1.1, row.1.2, row.2⟩ : Staged)
      let _ ← mapEach (checkView source) staged
      return .staged staged

def fileNames (selected : List SafetensorDescriptor) : List String :=
  (selected.map SafetensorDescriptor.name).filter fun name =>
    source.fileWeightFilter.elim false fun accepts => accepts name

def ordinary (selected : List SafetensorDescriptor) : List SafetensorDescriptor :=
  selected.filter fun descriptor => descriptor.name ∉ fileNames source selected

def owned (shared : List Nat) (selected : List SafetensorDescriptor) :
    List (SafetensorDescriptor × Int) :=
  selected.map fun descriptor =>
    (descriptor, ownerByName (ordinary source selected) shared descriptor.name)

/-- What becomes of a file: its descriptors with their owners, and the batches so far. -/
structure FilePlan where
  file : CheckpointFile
  owned : List (SafetensorDescriptor × Int)
  batches : List Batch

/-- The descriptors of a file which a rank loads; none may have the name of an earlier one. -/
def selectFile (filter : RankFilter) (seen : List String) (file : CheckpointFile) :
    Checked (List SafetensorDescriptor) := do
  let selected ← selectDescriptors source filter file
  let duplicates := sortedOn id
    ((selected.map SafetensorDescriptor.name).filter fun name => name ∈ seen)
  require (duplicates = []) (runtimeError
    ("duplicate selected safetensors tensor " ++ Builtins.render (.str (duplicates.headD ""))))
  return selected

/-- The owners of a whole file are known before its first batch. -/
def planFile (worldSize fileNumber : Nat) (file : CheckpointFile)
    (selected : List SafetensorDescriptor) : Produced FilePlan :=
  match owners (ordinary source selected) worldSize (fileNumber % worldSize) true with
  | .error error => .raise error
  | .ok shared =>
    let batches := Produced.each
      (fun range =>
        planBatch source (fileNames source selected) (cut (owned source shared selected) range))
      (descriptorBatches selected source.stagingBytes (fileNames source selected))
    ⟨[⟨file, owned source shared selected, batches.items⟩], batches.error⟩

def planFiles (filter : RankFilter) (worldSize : Nat) :
    (fileNumber : Nat) → (seen : List String) → List CheckpointFile → Produced FilePlan
  | _, _, [] => ⟨[], none⟩
  | fileNumber, seen, file :: files =>
    match selectFile source filter seen file with
    | .error error => .raise error
    | .ok selected =>
      (planFile source worldSize fileNumber file selected).followedBy
        (planFiles filter worldSize (fileNumber + 1)
          (seen ++ selected.map SafetensorDescriptor.name) files)

/-- The batches which a rank reads and broadcasts, up to the error which it raises. -/
def iteratorPlan (worldSize : Nat) (filter : RankFilter) : Produced FilePlan :=
  planFiles source filter worldSize 0 [] source.ordered

end Plan

end Coldsnap.Recovery
