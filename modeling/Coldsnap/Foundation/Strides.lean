import Mathlib.Algebra.BigOperators.Group.List.Basic

/-! # Strided views

The places of the elements of a view in the storage it looks at, counted in
elements, the last axis running fastest.
-/

namespace Coldsnap.Strides

open List

/-- The places of the elements, for a shape and the strides of its axes. -/
def places : List Nat → List Nat → List Nat
  | size :: shape, step :: stride =>
    (range size).flatMap fun index => (places shape stride).map (index * step + ·)
  | _, _ => [0]

def count (shape : List Nat) : Nat := shape.prod

/-- The bytes of the elements, for an element size and the byte at which the view
starts. -/
def bytes (elementSize offset : Nat) (shape stride : List Nat) : List Nat :=
  (places shape stride).flatMap fun place =>
    (range elementSize).map (offset + place * elementSize + ·)

theorem places_ne_nil {shape : List Nat} :
    ∀ {stride : List Nat}, 0 < count shape → places shape stride ≠ [] := by
  induction shape with
  | nil => simp [places]
  | cons size shape induction =>
    intro stride positive
    cases stride with
    | nil => simp [places]
    | cons step stride =>
      have first : 0 < size := Nat.pos_of_mul_pos_right positive
      have rest := Nat.pos_of_mul_pos_left positive
      rcases exists_mem_of_ne_nil _ (induction rest) with ⟨place, member⟩
      apply ne_nil_of_mem
      rw [places, mem_flatMap]
      exact ⟨0, mem_range.mpr first, mem_map_of_mem member⟩

theorem bytes_ne_nil {elementSize offset : Nat} {shape stride : List Nat}
    (element : 0 < elementSize) (positive : 0 < count shape) :
    bytes elementSize offset shape stride ≠ [] := by
  rcases exists_mem_of_ne_nil _ (places_ne_nil positive) with ⟨place, member⟩
  apply ne_nil_of_mem
  rw [bytes, mem_flatMap]
  exact ⟨place, member, mem_map_of_mem (mem_range.mpr element)⟩

end Coldsnap.Strides
