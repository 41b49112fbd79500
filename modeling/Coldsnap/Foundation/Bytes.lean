import Mathlib.Algebra.Order.Ring.Int
import Mathlib.Data.Int.ConditionallyCompleteOrder
import Mathlib.Data.Int.ModEq
import Mathlib.Data.List.Basic
import Mathlib.Data.List.GetD

/-! # Slices of byte-addressed storage

Device memory and files are functions from positions to bytes. A slice lists
the bytes of a range, and a store replaces them.
-/

namespace Coldsnap.Bytes

open List

variable {β : Type}

def slice (storage : Int → β) (start : Int) (count : Nat) : List β :=
  (range count).map fun index : Nat => storage (start + index)

def overwrite (storage : Int → β) (start : Int) (count : Nat) (byte : Nat → β) : Int → β :=
  fun position =>
    if start ≤ position ∧ position < start + count then byte (position - start).toNat
    else storage position

variable (storage : Int → β) (start : Int)

@[simp] theorem slice_length (count : Nat) : (slice storage start count).length = count := by
  simp [slice]

@[simp] theorem slice_zero : slice storage start 0 = [] := rfl

variable {count index : Nat}

theorem slice_getElem (bound : index < (slice storage start count).length) :
    (slice storage start count)[index] = storage (start + index) := by
  simp [slice]

theorem slice_append (first second : Nat) :
    slice storage start (first + second) =
      slice storage start first ++ slice storage (start + first) second := by
  simp only [slice, range_add, map_append, map_map]
  congr 1
  refine map_congr_left fun index _ => ?_
  simp only [Function.comp_apply]
  congr 1
  omega

variable {storage start} {other : Int → β} {start' : Int}

theorem slice_congr
    (same : ∀ index : Nat, index < count → storage (start + index) = other (start' + index)) :
    slice storage start count = slice other start' count :=
  map_congr_left fun index member => same index (mem_range.mp member)

/-- Equal slices agree at every position. -/
theorem eq_of_slice_eq (same : slice storage start count = slice other start' count)
    (bound : index < count) : storage (start + index) = other (start' + index) := by
  have leftBound : index < (slice storage start count).length := by rwa [slice_length]
  have rightBound : index < (slice other start' count).length := by rwa [slice_length]
  rw [← slice_getElem storage start leftBound, ← slice_getElem other start' rightBound]
  simp [same]

theorem slice_part (same : slice storage start count = slice other start' count)
    {offset size : Nat} (inside : offset + size ≤ count) :
    slice storage (start + offset) size = slice other (start' + offset) size := by
  apply slice_congr
  intro index bound
  have found := eq_of_slice_eq same (show offset + index < count by omega)
  rwa [Nat.cast_add, ← add_assoc, ← add_assoc] at found

section Overwrite

variable (storage) (byte : Nat → β) {position : Int}

theorem overwrite_inside (inside : start ≤ position ∧ position < start + count) :
    overwrite storage start count byte position = byte (position - start).toNat :=
  if_pos inside

theorem overwrite_outside (outside : ¬(start ≤ position ∧ position < start + count)) :
    overwrite storage start count byte position = storage position :=
  if_neg outside

theorem slice_overwrite (start : Int) (count : Nat) :
    slice (overwrite storage start count byte) start count = (range count).map byte := by
  refine map_congr_left fun index member => ?_
  have bound := mem_range.mp member
  rw [overwrite_inside storage byte (by omega)]
  congr 1
  omega

theorem slice_overwrite_apart {other : Int} {size : Nat}
    (apart : other + size ≤ start ∨ start + count ≤ other) :
    slice (overwrite storage start count byte) other size = slice storage other size := by
  refine slice_congr fun index bound => ?_
  exact overwrite_outside storage byte (by omega)

theorem slice_overwrite_append (done count : Nat) :
    slice (overwrite storage done count byte) 0 (done + count) =
      slice storage 0 done ++ (range count).map byte := by
  rw [slice_append]
  congr 1
  · exact slice_overwrite_apart storage byte (by omega)
  · rw [zero_add]
    exact slice_overwrite storage byte done count

end Overwrite

variable {first middle last : List β}

/-- A part of the bytes which are found somewhere lies at its own place. -/
theorem slice_within
    (whole : slice storage start (first ++ middle ++ last).length = first ++ middle ++ last) :
    slice storage (start + first.length) middle.length = middle := by
  rw [length_append, length_append, slice_append, slice_append] at whole
  rcases append_inj whole (by simp) with ⟨front, _⟩
  exact (append_inj front (by simp)).2

theorem slice_middle
    (whole : slice storage 0 (first ++ middle ++ last).length = first ++ middle ++ last) :
    slice storage first.length middle.length = middle := by
  have found := slice_within whole
  rwa [zero_add] at found

def put [Inhabited β] (storage : Int → β) (start : Int) (bytes : List β) : Int → β :=
  overwrite storage start bytes.length fun index => bytes.getD index default

section Put

variable [Inhabited β] (storage start)

@[simp] theorem put_nil : put storage start [] = storage := by
  funext position
  exact overwrite_outside storage _ (by simp)

theorem put_append (first second : List β) :
    put (put storage start first) (start + first.length) second =
      put storage start (first ++ second) := by
  funext position
  simp only [put, overwrite, length_append]
  by_cases behind : start + first.length ≤ position ∧
      position < start + first.length + second.length
  · rw [if_pos behind, if_pos (by omega), getD_append_right _ _ _ _ (by omega)]
    congr 1
    omega
  · rw [if_neg behind]
    by_cases inside : start ≤ position ∧ position < start + first.length
    · rw [if_pos inside, if_pos (by omega), getD_append _ _ _ _ (by omega)]
    · rw [if_neg inside, if_neg (by omega)]

theorem slice_put (bytes : List β) :
    slice (put storage start bytes) start bytes.length = bytes := by
  rw [put, slice_overwrite]
  apply ext_getElem
  · simp
  · intro index first second
    simp only [length_map, length_range] at first
    simp [first]

end Put

end Coldsnap.Bytes
