import Coldsnap.Foundation.Program

/-! # Programs which look at a part of the state

A view keeps the visible part of a state. A program respects the view if a run from
the visible part is the visible part of the run; then states which look alike lead
to the same results.
-/

namespace Coldsnap

variable {κ σ ε α β γ : Type}

def Run.seen (view : σ → σ) (run : Run κ σ ε α) : Run κ σ ε α :=
  ⟨run.result, view run.state, run.schedule, run.visited.map view⟩

namespace Program

def Respects (view : σ → σ) (program : Program κ σ ε α) : Prop :=
  ∀ state schedule, program (view state) schedule = (program state schedule).seen view

namespace Respects

variable {view : σ → σ}

theorem pure {value : α} : Respects view (Program.pure value : Program κ σ ε α) := fun _ _ => rfl

variable {error : ε}

theorem raise : Respects view (Program.raise error : Program κ σ ε α) :=
  fun _ _ => rfl

variable {condition : Bool}

theorem require : Respects view (Program.require condition error : Program κ σ ε Unit) := by
  cases condition with
  | true => exact pure
  | false => exact raise

theorem operation {label : κ} {effect : σ → Except ε α × σ}
    (commutes : ∀ state, effect (view state) = ((effect state).1, view (effect state).2)) :
    Respects view (Program.operation label effect) := by
  intro state schedule
  simp only [Program.operation]
  cases raised label schedule with
  | some error => rfl
  | none =>
    simp only [commutes]
    rfl

variable {next : α → Program κ σ ε β}

theorem bind {first : Program κ σ ε α} (firstRespects : Respects view first)
    (nextRespects : ∀ value, Respects view (next value)) :
    Respects view (Program.bind first next) := by
  intro state schedule
  simp only [Program.bind, firstRespects state schedule, Run.seen]
  cases (first state schedule).result with
  | error error => rfl
  | ok value =>
    simp [nextRespects value (first state schedule).state (first state schedule).schedule, Run.seen]

theorem bindRequire {next : Unit → Program κ σ ε β}
    (nextRespects : condition = true → Respects view (next ())) :
    Respects view (Program.bind (Program.require condition error) next) := by
  cases condition with
  | true => exact bind pure fun _ => nextRespects rfl
  | false => exact raise

theorem bindExcept {computed : Except ε α}
    (nextRespects : ∀ value, computed = .ok value → Respects view (next value)) :
    Respects view (Program.bind (Program.ofExcept computed) next) := by
  cases computed with
  | ok value =>
    intro state schedule
    exact nextRespects value rfl state schedule
  | error error => exact raise

theorem recover {body : Program κ σ ε α} {handler : ε → Program κ σ ε α}
    (bodyRespects : Respects view body) (handlerRespects : ∀ error, Respects view (handler error)) :
    Respects view (Program.recover body handler) := by
  intro state schedule
  simp only [Program.recover, bodyRespects state schedule, Run.seen]
  cases outcome : (body state schedule).result with
  | ok value => simp [outcome]
  | error error =>
    simp [handlerRespects error (body state schedule).state (body state schedule).schedule,
      Run.seen]

theorem onlyIf {body : Program κ σ ε Unit} (bodyRespects : Respects view body) :
    Respects view (Program.onlyIf condition body) := by
  cases condition with
  | true => exact bodyRespects
  | false => exact pure

theorem foldEach {body : γ → β → Program κ σ ε γ} {items : List β}
    (bodyRespects : ∀ accumulator, ∀ item ∈ items, Respects view (body accumulator item)) :
    ∀ accumulator, Respects view (Program.foldEach body accumulator items) := by
  induction items with
  | nil => exact fun _ => pure
  | cons item items induction =>
    intro accumulator
    apply bind (bodyRespects accumulator item List.mem_cons_self)
    intro next
    exact induction (fun state other member =>
      bodyRespects state other (List.mem_cons_of_mem _ member)) next

/-- States which look alike lead to the same result. -/
theorem alike {program : Program κ σ ε α} (respects : Respects view program) {left right : σ}
    (same : view left = view right) (schedule : List (κ → Option ε)) :
    (program left schedule).result = (program right schedule).result ∧
      view (program left schedule).state = view (program right schedule).state := by
  have equal : (program left schedule).seen view = (program right schedule).seen view := by
    rw [← respects left schedule, same, respects right schedule]
  simp only [Run.seen, Run.mk.injEq] at equal
  exact ⟨equal.1, equal.2.1⟩

end Respects

end Program

end Coldsnap
