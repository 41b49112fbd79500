import Coldsnap.Foundation.Intervals
import Coldsnap.Foundation.Python
import Mathlib.Data.List.Dedup

/-! # Which weights are replayed

`_fully_covered_replay_destinations`: the tensors of a model which the copies recorded while the
checkpoint was loaded restore completely.
-/

namespace Coldsnap.Recovery

open Python Intervals List

structure RecoveryCopy where
  destinationName : String
  destinationDtype : String
  destinationShape : List Int
  destinationViewOffsetBytes : Int
  destinationViewShape : List Int
  destinationViewStride : List Int
  copyBytes : Int
deriving DecidableEq

/-- The bytes of the destination which the copy writes, when its view is contiguous. -/
def RecoveryCopy.range (copy : RecoveryCopy) : Int × Int :=
  (copy.destinationViewOffsetBytes, copy.destinationViewOffsetBytes + copy.copyBytes)

structure RecoveryCopyPlan where
  copies : List RecoveryCopy
  unsupportedDestinations : List String

def RecoveryCopyPlan.into (plan : RecoveryCopyPlan) (name : String) : List RecoveryCopy :=
  plan.copies.filter fun copy => copy.destinationName = name

structure LiveTensor where
  isCuda : Bool
  isContiguous : Bool
  shape : List Int
  dtype : String
  numel : Nat
  elementSize : Nat
deriving DecidableEq

def LiveTensor.bytes (tensor : LiveTensor) : Nat := tensor.numel * tensor.elementSize

structure LiveModel where
  namedParameters : List (String × LiveTensor)
  namedBuffers : List (String × LiveTensor)

def LiveModel.destination (model : LiveModel) (name : String) : Option LiveTensor :=
  ((model.namedParameters ++ model.namedBuffers).reverse.find? fun item => item.1 = name).map
    Prod.snd

def contiguousStride : List Int → List Int
  | [] => []
  | _ :: shape => shape.prod :: contiguousStride shape

/-- The copy writes a contiguous part of the tensor as it is now. -/
def RecoveryCopy.compatible (copy : RecoveryCopy) (tensor : LiveTensor) : Bool :=
  copy.destinationShape = tensor.shape && copy.destinationDtype = tensor.dtype &&
    copy.destinationViewStride = contiguousStride copy.destinationViewShape &&
    0 ≤ copy.range.1 && copy.range.2 ≤ tensor.bytes

def replayable (captured : RecoveryCopyPlan) (name : String) (tensor : LiveTensor) : Bool :=
  name ∉ captured.unsupportedDestinations && tensor.isCuda && tensor.isContiguous &&
    0 < tensor.bytes && (captured.into name).all fun copy => copy.compatible tensor

def fullyCoveredReplayDestinations (model : LiveModel) (captured : RecoveryCopyPlan) :
    List String :=
  (captured.copies.map RecoveryCopy.destinationName).dedup.filter fun name =>
    (model.destination name).any fun tensor => replayable captured name tensor &&
      reach 0 (sortedOn toLex ((captured.into name).map RecoveryCopy.range)) = tensor.bytes

variable {captured : RecoveryCopyPlan} {name : String}

theorem mem_into {copy : RecoveryCopy} :
    copy ∈ captured.into name ↔ copy ∈ captured.copies ∧ copy.destinationName = name := by
  simp [RecoveryCopyPlan.into]

theorem reach_eq_bytes_iff {tensor : LiveTensor}
    (fits : ∀ copy ∈ captured.into name, copy.compatible tensor = true) :
    reach 0 (sortedOn toLex ((captured.into name).map RecoveryCopy.range)) = tensor.bytes ↔
      ∀ byte : Int, 0 ≤ byte → byte < tensor.bytes →
        ∃ copy ∈ captured.into name, Contains copy.range byte := by
  let copied := (captured.into name).map RecoveryCopy.range
  have ranges := sortedOn_perm toLex copied
  have sorted := (sortedOn_pairwise toLex copied).imp
    fun {left right} ordered => (show left.1 ≤ right.1 from Prod.Lex.monotone_fst _ _ ordered)
  have within : reach 0 (sortedOn toLex copied) ≤ (tensor.bytes : Int) := by
    apply reach_le (Int.natCast_nonneg _)
    intro range member
    rcases mem_map.mp (ranges.mem_iff.mp member) with ⟨copy, recorded, rfl⟩
    have fit := fits copy recorded
    simp only [RecoveryCopy.compatible, Bool.and_eq_true, decide_eq_true_eq] at fit
    exact fit.2
  rw [← within.ge_iff_eq, le_reach_iff sorted]
  simp [ranges.mem_iff, copied]

/-- A destination is replayed by itself just if it is a supported, contiguous tensor on the
device, all recorded copies fit it, and together they write every byte of it. -/
theorem mem_fullyCoveredReplayDestinations_iff (model : LiveModel) (captured : RecoveryCopyPlan)
    (name : String) :
    name ∈ fullyCoveredReplayDestinations model captured ↔
      ∃ tensor, model.destination name = some tensor ∧ replayable captured name tensor = true ∧
        ∀ byte : Int, 0 ≤ byte → byte < tensor.bytes →
          ∃ copy ∈ captured.copies, copy.destinationName = name ∧ Contains copy.range byte := by
  simp only [fullyCoveredReplayDestinations, mem_filter, mem_dedup, mem_map, Option.any_eq_true,
    Bool.and_eq_true, decide_eq_true_eq]
  constructor
  · rintro ⟨-, tensor, live, eligible, reached⟩
    have fits := eligible
    simp only [replayable, Bool.and_eq_true, all_eq_true] at fits
    refine ⟨tensor, live, eligible, fun byte start stop => ?_⟩
    rcases (reach_eq_bytes_iff fits.2).mp reached byte start stop with ⟨copy, member, inside⟩
    exact ⟨copy, (mem_into.mp member).1, (mem_into.mp member).2, inside⟩
  · rintro ⟨tensor, live, eligible, covered⟩
    have fits := eligible
    simp only [replayable, Bool.and_eq_true, all_eq_true, decide_eq_true_eq] at fits
    rcases covered 0 le_rfl (by exact_mod_cast fits.1.2) with ⟨first, member, into, -⟩
    refine ⟨⟨first, member, into⟩, tensor, live, eligible, ?_⟩
    apply (reach_eq_bytes_iff fits.2).mpr
    intro byte start stop
    rcases covered byte start stop with ⟨copy, member, into, inside⟩
    exact ⟨copy, mem_into.mpr ⟨member, into⟩, inside⟩

def hostTensor : LiveTensor := ⟨false, true, [2], "torch.float16", 2, 2⟩

def wholeCopy : RecoveryCopy :=
  ⟨"w", "torch.float16", [2], 0, [2], [1], 4⟩

/-- The copies of a tensor in host memory cover it, but it is not selected. -/
theorem host_tensor_covered :
    LiveModel.destination ⟨[("w", hostTensor)], []⟩ "w" = some hostTensor ∧
      wholeCopy.compatible hostTensor = true ∧ wholeCopy.range = (0, (hostTensor.bytes : Int)) ∧
      fullyCoveredReplayDestinations ⟨[("w", hostTensor)], []⟩ ⟨[wholeCopy], []⟩ = [] := by
  decide

end Coldsnap.Recovery
