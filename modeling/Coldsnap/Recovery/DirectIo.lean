import Coldsnap.Recovery.Sharing
import Mathlib.Data.Int.Bitwise

/-! # Splitting extents for direct reads

`_split_direct_hydration_extents` of the disk backend and `_split_direct_extents` of the
recovery loader. Both cut an extent at the boundaries of its blocks; the first rounds by
division, the second by masking. Before that `_coalesced_extents` joins extents which continue
each other.
-/

namespace Coldsnap.Recovery.DirectIo

open Python Chunks List Checked

/-- What becomes of an extent which is cut somewhere. -/
def cutExtent (extent : Extent)
    (cutting : (start stop : Nat) → Extent → (Nat → Extent) → (Nat → Nat → Extent) →
      List Extent × List Extent) : List Extent × List Extent :=
  cutting extent.fileOffset (extent.fileOffset + extent.length) extent
    (fun length => ⟨extent.fileOffset, extent.destination, length⟩)
    (fun offset length => ⟨offset, extent.destination + offset - extent.fileOffset, length⟩)

def splitDirectHydrationExtent (alignment : Nat) (extent : Extent) : List Extent × List Extent :=
  cutExtent extent (splitBlocks alignment)

variable (extents : List Extent)

def splitDirectHydrationExtents (alignment : Nat) : List Extent × List Extent :=
  (extents.flatMap fun extent => (splitDirectHydrationExtent alignment extent).1,
    extents.flatMap fun extent => (splitDirectHydrationExtent alignment extent).2)

def mask (value alignment : Nat) : Nat := (Int.land value (-alignment)).toNat

def splitDirectExtent (alignment : Nat) (extent : Extent) : List Extent × List Extent :=
  cutExtent extent fun start stop =>
    cutRange start stop (mask (start + alignment - 1) alignment) (mask stop alignment)

def splitDirectExtents (alignment : Nat) :
    Checked (List Extent × List Extent) := do
  require (0 < alignment && alignment &&& (alignment - 1) = 0)
    (valueError "recovery direct alignment must be a power of two")
  return (extents.flatMap fun extent => (splitDirectExtent alignment extent).1,
    extents.flatMap fun extent => (splitDirectExtent alignment extent).2)

def moves (extent : Extent) : List (Nat × Int) :=
  (range extent.length).map fun index => (extent.fileOffset + index, extent.destination + index)

theorem moves_append (offset : Nat) (destination : Int) (left right : Nat) :
    moves ⟨offset, destination, left + right⟩ =
      moves ⟨offset, destination, left⟩ ++ moves ⟨offset + left, destination + left, right⟩ := by
  simp only [moves, range_add, map_append, map_map, append_cancel_left_eq]
  apply map_congr_left
  simp only [Function.comp_apply, Prod.mk.injEq]
  omega

theorem edge_moves {condition : Prop} [Decidable condition] {part : Extent}
    (empty : ¬condition → part.length = 0) :
    (if condition then [part] else []).flatMap moves = moves part := by
  split
  · simp
  · next absent => simp [moves, empty absent]

/-- The parts of an extent make its moves, each once. -/
theorem cutExtent_moves {extent : Extent} {first last : Nat} (above : extent.fileOffset ≤ first)
    (below : last ≤ extent.fileOffset + extent.length) :
    ((cutExtent extent (cutRange · · first last)).1 ++
      (cutExtent extent (cutRange · · first last)).2).flatMap moves ~ moves extent := by
  rw [cutExtent, cutRange]
  split
  · simp
  · next interior =>
      rcases extent with ⟨offset, destination, length⟩
      rcases Nat.exists_eq_add_of_le above with ⟨head, rfl⟩
      rcases Nat.exists_eq_add_of_le (Nat.le_of_not_le interior) with ⟨body, rfl⟩
      obtain ⟨tail, rfl⟩ : ∃ tail, length = head + (body + tail) :=
        ⟨length - head - body, by simp only at below; omega⟩
      rw [moves_append, moves_append, flatMap_append, flatMap_append,
        edge_moves (by simp only; omega), edge_moves (by simp only; omega), flatMap_singleton]
      have interiorAt : destination + (offset + head) - offset = destination + head := by omega
      have tailAt : destination + (offset + head + body) - offset = destination + head + body := by
        omega
      simp only [Nat.add_sub_cancel_left, Nat.cast_add, ← Nat.add_assoc, interiorAt, tailAt]
      rw [← append_assoc, ← append_assoc]
      exact perm_append_comm.append_right _

theorem mask_two_pow (value exponent : Nat) :
    mask value (2 ^ exponent) = value / 2 ^ exponent * 2 ^ exponent := by
  have complement : (-((2 ^ exponent : Nat) : Int)) = Int.negSucc (2 ^ exponent - 1) := by
    have positive := Nat.two_pow_pos exponent
    omega
  rw [mask, complement]
  change Nat.ldiff value (2 ^ exponent - 1) = _
  apply Nat.eq_of_testBit_eq
  intro index
  rw [Nat.testBit_ldiff, Nat.testBit_two_pow_sub_one, ← Nat.shiftRight_eq_div_pow,
    ← Nat.shiftLeft_eq, Nat.testBit_shiftLeft, Nat.testBit_shiftRight]
  by_cases low : index < exponent
  · simp [low]
  · simp [low, Nat.le_of_not_lt low]

theorem splitDirectExtent_eq (exponent : Nat) :
    splitDirectExtent (2 ^ exponent) = splitDirectHydrationExtent (2 ^ exponent) := by
  funext extent
  simp only [splitDirectExtent, mask_two_pow]
  rfl

/-- For every alignment which is a power of two, the splitters agree, the parts of each extent
make its moves, and the direct parts are aligned in the file, and in memory where the extent
is. -/
theorem split_aligned (exponent : Nat) :
    splitDirectExtents extents (2 ^ exponent) =
      .ok (splitDirectHydrationExtents extents (2 ^ exponent)) ∧
    ∀ extent,
      ((splitDirectHydrationExtent (2 ^ exponent) extent).1 ++
        (splitDirectHydrationExtent (2 ^ exponent) extent).2).flatMap moves ~ moves extent ∧
      ∀ part ∈ (splitDirectHydrationExtent (2 ^ exponent) extent).1,
        2 ^ exponent ∣ part.fileOffset ∧ 2 ^ exponent ∣ part.length ∧
        ((2 ^ exponent : Int) ∣ extent.destination - extent.fileOffset →
          (2 ^ exponent : Int) ∣ part.destination) := by
  have positive := Nat.two_pow_pos exponent
  constructor
  · have power : 2 ^ exponent &&& (2 ^ exponent - 1) = 0 := by
      rw [Nat.and_two_pow_sub_one_eq_mod, Nat.mod_self]
    simp [splitDirectExtents, splitDirectExtent_eq, power, positive, splitDirectHydrationExtents,
      require]
  · intro extent
    constructor
    · apply cutExtent_moves
      · have rounded := Nat.lt_div_mul_add (a := extent.fileOffset + 2 ^ exponent - 1) positive
        omega
      · exact Nat.div_mul_le_self _ _
    · intro part member
      simp only [splitDirectHydrationExtent, cutExtent, splitBlocks, cutRange] at member
      split at member
      · cases member
      · next interior =>
        cases mem_singleton.mp member
        refine ⟨Nat.dvd_mul_left .., Nat.dvd_sub (Nat.dvd_mul_left ..) (Nat.dvd_mul_left ..), ?_⟩
        intro shifted
        have aligned : (2 ^ exponent : Int) ∣
            ((extent.fileOffset + 2 ^ exponent - 1) / 2 ^ exponent * 2 ^ exponent : Nat) := by
          exact_mod_cast Nat.dvd_mul_left ..
        have sum := dvd_add shifted aligned
        simpa [sub_add_eq_add_sub] using sum

/-! ## Joining extents -/

/-- What `_coalesced_extents` returns without `coalesce_adjacent`. -/
def plainExtents (batch : List Staged) (base : Int) (rank : Nat) : List Extent :=
  (batch.filter fun row => row.owner = (rank : Int) ∧ 0 < row.descriptor.length).map fun row =>
    ⟨row.descriptor.fileOffset, base + row.offset, row.descriptor.length⟩

theorem appendExtent_moves (extent : Extent) :
    (appendExtent extents extent).flatMap moves = extents.flatMap moves ++ moves extent := by
  unfold appendExtent
  split
  · rename_i empty
    simp [getLast?_eq_none_iff.mp empty]
  · rename_i last found
    split
    · rename_i continues
      have joined := moves_append last.fileOffset last.destination last.length extent.length
      rw [continues.1, continues.2] at joined
      rw [flatMap_append, flatMap_singleton, joined, ← append_assoc]
      congr 1
      conv_rhs => rw [← dropLast_append_getLast? last found, flatMap_append, flatMap_singleton]
    · simp

theorem foldl_appendExtent_moves : ∀ joined : List Extent,
    (extents.foldl appendExtent joined).flatMap moves =
      joined.flatMap moves ++ extents.flatMap moves := by
  induction extents with
  | nil => simp
  | cons extent extents induction =>
    intro joined
    rw [foldl_cons, induction, appendExtent_moves, flatMap_cons, append_assoc]

/-- Joined extents move the same bytes to the same places. -/
theorem coalescedExtents_moves (batch : List Staged) (base : Int) (rank : Nat) :
    (coalescedExtents batch base rank).flatMap moves ~
      (plainExtents batch base rank).flatMap moves := by
  rw [coalescedExtents, foldl_appendExtent_moves, flatMap_nil, nil_append]
  exact ((sortedOn_perm _ _).map _).flatMap_right _

end Coldsnap.Recovery.DirectIo
