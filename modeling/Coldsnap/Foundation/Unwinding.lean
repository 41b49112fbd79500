import Mathlib.Data.List.Basic

/-! # Non-interference by unwinding

A machine answers every input. One party sees the answers to its own inputs. If
the inputs of the others leave alone what the party sees, and its own inputs
depend on nothing else, then the others cannot be noticed in any run.
-/

namespace Coldsnap.Unwinding

variable {σ ι ο ν : Type}

def observed (step : σ → ι → ο × σ) (mine : ι → Bool) : σ → List ι → List ο
  | _, [] => []
  | state, input :: inputs =>
    if mine input then (step state input).1 :: observed step mine (step state input).2 inputs
    else observed step mine (step state input).2 inputs

/-- What has to be shown of single steps. -/
structure Unwinds (step : σ → ι → ο × σ) (mine : ι → Bool) (view : σ → ν) : Prop where
  silent : ∀ state input, mine input = false → view (step state input).2 = view state
  consistent : ∀ {left right} input, mine input = true → view left = view right →
    (step left input).1 = (step right input).1 ∧
      view (step left input).2 = view (step right input).2

/-- What a party sees is what it would see alone. -/
theorem Unwinds.observed_alone {step : σ → ι → ο × σ} {mine : ι → Bool} {view : σ → ν}
    (unwinds : Unwinds step mine view) (inputs : List ι) :
    ∀ {left right : σ}, view left = view right →
      observed step mine left inputs = observed step mine right (inputs.filter mine) := by
  induction inputs with
  | nil => intro left right same; rfl
  | cons input inputs induction =>
    intro left right same
    cases own : mine input with
    | true =>
      rcases unwinds.consistent input own same with ⟨answers, views⟩
      rw [List.filter_cons_of_pos own, observed, observed, if_pos own, if_pos own, answers,
        induction views]
    | false =>
      have views : view (step left input).2 = view right :=
        (unwinds.silent left input own).trans same
      rw [List.filter_cons_of_neg (by simp [own]), observed, if_neg (by simp [own]),
        induction views]

end Coldsnap.Unwinding
