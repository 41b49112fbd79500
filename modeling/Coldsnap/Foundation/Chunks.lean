import Coldsnap.Foundation.Intervals
import Coldsnap.Foundation.Program

/-! # Cutting a length into chunks

The pieces of the loop `while copied < size: count = min(chunk, size - copied)`.
-/

namespace Coldsnap.Chunks

open Intervals

/-- The pieces `(copied, count)` from a position on. A round moves at least one
unit, so as many rounds as there are units suffice. -/
def chunksFrom (chunk size : Nat) : (rounds copied : Nat) → List (Nat × Nat)
  | 0, _ => []
  | rounds + 1, copied =>
    if copied < size then
      (copied, min chunk (size - copied)) ::
        chunksFrom chunk size rounds (copied + min chunk (size - copied))
    else []

def chunks (chunk size : Nat) : List (Nat × Nat) := chunksFrom chunk size size 0

section Blocks

variable {α β : Type} [LE α] [LT α] [DecidableLE α] [DecidableLT α] [Sub α]

/-- A range cut in two places: what is between them, and what is left of it outside. -/
def cutRange (start stop first last : α) (whole : β) (head : α → β) (part : α → α → β) :
    List β × List β :=
  if last ≤ first then ([], [whole])
  else ([part first (last - first)],
    (if start < first then [head (first - start)] else []) ++
      if last < stop then [part last (stop - last)] else [])

/-- The whole blocks of a range, and its edges. -/
def splitBlocks [Add α] [Mul α] [Div α] [OfNat α 1] (alignment start stop : α) :
    β → (α → β) → (α → α → β) → List β × List β :=
  cutRange start stop ((start + alignment - 1) / alignment * alignment)
    (stop / alignment * alignment)

end Blocks

section Loops

variable {κ σ ε γ : Type} {plan : (κ → Option ε) → Prop} {always : σ → Prop}
variable {failed : ε → σ → Prop}

/-- A piece of the loop: it moves at least one unit and at most a chunk, and
only the last piece is shorter than a chunk. -/
structure Piece (chunk size copied count : Nat) : Prop where
  positive : 0 < count
  bounded : count ≤ chunk
  inside : copied + count ≤ size
  full : count = chunk ∨ copied + count = size

variable {body : γ → Nat × Nat → Program κ σ ε γ} {chunk size : Nat}

theorem chunksFrom_triple (positive : 0 < chunk) (invariant : γ → Nat → σ → Prop)
    (step : ∀ accumulator copied count, Piece chunk size copied count →
      Program.Triple plan always (invariant accumulator copied) (body accumulator (copied, count))
        (fun next => invariant next (copied + count)) failed) :
    ∀ (rounds copied : Nat) (accumulator : γ), size ≤ copied + rounds → copied ≤ size →
      Program.Triple plan always (invariant accumulator copied)
        (Program.foldEach body accumulator (chunksFrom chunk size rounds copied))
        (fun final => invariant final size) failed := by
  intro rounds
  induction rounds with
  | zero =>
    intro copied accumulator enough bounded
    have finished : copied = size := by omega
    subst finished
    exact .pure fun _ => id
  | succ rounds induction =>
    intro copied accumulator enough bounded
    rw [chunksFrom]
    split
    · next remaining =>
        refine .bind (step accumulator copied (min chunk (size - copied))
          ⟨by omega, by omega, by omega, by omega⟩) fun next => ?_
        exact induction _ next (by omega) (by omega)
    · have finished : copied = size := by omega
      subst finished
      exact .pure fun _ => id

end Loops

end Coldsnap.Chunks
