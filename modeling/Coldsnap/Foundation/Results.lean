import Mathlib.Data.List.Forall2

/-! # Results

When a sequence of computations which may fail returns, also one for each item of a list.
-/

namespace Coldsnap

variable {ε α β : Type} {body : Except ε α} {value : β}

@[simp] theorem bind_eq_ok {next : α → Except ε β} :
    (body >>= next) = .ok value ↔ ∃ middle, body = .ok middle ∧ next middle = .ok value := by
  cases body with
  | error error => simp [bind, Except.bind]
  | ok middle => simp [bind, Except.bind]

@[simp] theorem pure_eq_ok {result : β} :
    (pure value : Except ε β) = .ok result ↔ value = result := by
  simp [pure, Except.pure]

@[simp] theorem map_eq_ok {compute : α → β} :
    compute <$> body = .ok value ↔ ∃ middle, body = .ok middle ∧ compute middle = value := by
  cases body with
  | error error => simp [Functor.map, Except.map]
  | ok middle => simp [Functor.map, Except.map]

theorem exists_of_isOk (isOk : body.isOk = true) : ∃ value, body = .ok value := by
  cases body with
  | error error => cases isOk
  | ok value => exact ⟨value, rfl⟩

theorem ok_bind (value : α) (next : α → Except ε β) :
    ((.ok value : Except ε α) >>= next) = next value := rfl

def mapEach (compute : β → Except ε α) : List β → Except ε (List α)
  | [] => .ok []
  | item :: items => do
    let head ← compute item
    let tail ← mapEach compute items
    return head :: tail

theorem mapEach_eq_ok {compute : β → Except ε α} :
    ∀ {items : List β} {results : List α}, mapEach compute items = .ok results ↔
      List.Forall₂ (fun item result => compute item = .ok result) items results
  | [], results => by
    cases results <;> simp [mapEach]
  | item :: items, results => by
    have rest : ∀ {tail : List α}, mapEach compute items = .ok tail ↔ _ := mapEach_eq_ok
    cases results <;> simp [mapEach, rest, List.forall₂_cons]

end Coldsnap
