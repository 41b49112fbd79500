import Coldsnap.Foundation.Chunks

/-! # Contracts inside a frame

Most programs change little of the state. A contract fixes a frame which holds
at every moment, also after an exception, and says in addition what a return
guarantees. `allowed` is what must be known for an exception to be possible at
all: with `False` a contract promises that the program returns.
-/

namespace Coldsnap.Program

variable {κ σ ε α β γ : Type}

/-- What holds of a result: one thing if it is a value, another if it is an
exception. -/
def Settles (result : Except ε α) (returns : α → Prop) (raises : Prop) : Prop :=
  match result with
  | .ok value => returns value
  | .error _ => raises

@[simp] theorem settles_ok {value : α} {returns : α → Prop} {raises : Prop} :
    Settles (.ok value : Except ε α) returns raises ↔ returns value := .rfl

@[simp] theorem settles_error {error : ε} {returns : α → Prop} {raises : Prop} :
    Settles (.error error : Except ε α) returns raises ↔ raises := .rfl

/-- Which errors are scheduled, and whether one is possible at all. -/
structure Regime (κ ε : Type) where
  plan : (κ → Option ε) → Prop
  allowed : Prop
  tolerates : ∀ {entry : κ → Option ε} {label : κ} {error : ε},
    plan entry → entry label = some error → allowed

def Contract (regime : Regime κ ε) (frame before : σ → Prop) (program : Program κ σ ε α)
    (after : α → σ → Prop) : Prop :=
  Triple regime.plan frame (fun state => frame state ∧ before state) program
    (fun value state => frame state ∧ after value state)
    (fun _ state => frame state ∧ regime.allowed)

abbrev Regime.Keeps (regime : Regime κ ε) (frame before : σ → Prop)
    (program : Program κ σ ε α) (after : α → σ → Prop) : Prop :=
  Contract regime frame before program after

namespace Contract

variable {regime : Regime κ ε} {frame before before' : σ → Prop} {after after' : α → σ → Prop}
  {program : Program κ σ ε α}

theorem consequence (contract : regime.Keeps frame before program after)
    (stronger : ∀ state, frame state → before' state → before state)
    (weaker : ∀ value state, frame state → after value state → after' value state) :
    regime.Keeps frame before' program after' :=
  Triple.consequence contract
    (fun state holds => ⟨holds.1, stronger state holds.1 holds.2⟩) (fun _ => id)
    (fun value state holds => ⟨holds.1, weaker value state holds.1 holds.2⟩)
    (fun _ _ => id)

theorem starting (stronger : ∀ state, frame state → before' state → before state)
    (contract : regime.Keeps frame before program after) :
    regime.Keeps frame before' program after :=
  contract.consequence stronger fun _ _ _ => id

theorem ending (weaker : ∀ value state, frame state → after value state → after' value state)
    (contract : regime.Keeps frame before program after) :
    regime.Keeps frame before program after' :=
  contract.consequence (fun _ _ => id) weaker

variable {value : α}

theorem pure (holds : ∀ state, frame state → before state → after value state) :
    regime.Keeps frame before (Program.pure value) after :=
  Triple.pure fun state starts => ⟨starts.1, holds state starts.1 starts.2⟩

variable {error : ε}

theorem raise (permits : ∀ state, frame state → before state → regime.allowed) :
    regime.Keeps frame before (Program.raise error) after :=
  Triple.raise fun state starts => ⟨starts.1, permits state starts.1 starts.2⟩

theorem read {project : σ → α}
    (holds : ∀ state, frame state → before state → after (project state) state) :
    regime.Keeps frame before (Program.read project) after :=
  Triple.read fun state starts => ⟨starts.1, holds state starts.1 starts.2⟩

theorem assign {update : σ → σ} {after : Unit → σ → Prop}
    (holds : ∀ state, frame state → before state → frame (update state) ∧ after () (update state)) :
    regime.Keeps frame before (Program.assign update) after :=
  Triple.assign (fun state starts => (holds state starts.1 starts.2).1)
    fun state starts => holds state starts.1 starts.2

variable {next : α → Program κ σ ε β} {middle : α → σ → Prop} {first : Program κ σ ε α}
  {last : β → σ → Prop}

theorem bind (firstContract : regime.Keeps frame before first middle)
    (nextContract : ∀ value, regime.Keeps frame (middle value) (next value) last) :
    regime.Keeps frame before (Program.bind first next) last :=
  Triple.bind firstContract nextContract

theorem through (middle : α → σ → Prop) (firstContract : regime.Keeps frame before first middle)
    (nextContract : ∀ value, regime.Keeps frame (middle value) (next value) last) :
    regime.Keeps frame before (Program.bind first next) last :=
  bind firstContract nextContract

/-- A fact which does not depend on the state moves out of the precondition. -/
theorem assuming {fact : Prop} (given : fact → regime.Keeps frame before program after) :
    regime.Keeps frame (fun state => fact ∧ before state) program after :=
  fun state schedule starts planned =>
    given starts.2.1 state schedule ⟨starts.1, starts.2.2⟩ planned

/-- A program whose result is known goes on with that result. -/
theorem bindKnown
    (firstContract : regime.Keeps frame before first fun result state =>
      result = value ∧ before' state)
    (nextContract : regime.Keeps frame before' (next value) last) :
    regime.Keeps frame before (Program.bind first next) last := by
  apply bind firstContract
  intro result
  apply assuming
  rintro rfl
  exact nextContract

/-- A witness of the precondition is fixed before the program runs. -/
theorem fixing {ι : Type} {before : ι → σ → Prop}
    (given : ∀ index, regime.Keeps frame (before index) program after) :
    regime.Keeps frame (fun state => ∃ index, before index state) program after := by
  intro state schedule starts planned
  obtain ⟨index, holds⟩ := starts.2
  exact given index state schedule ⟨starts.1, holds⟩ planned

/-- What follows may speak of the state in which the program starts. -/
theorem pinned (given : ∀ start, before start →
      regime.Keeps frame (fun state => state = start) program after) :
    regime.Keeps frame before program after :=
  fun state schedule starts planned =>
    given state starts.2 state schedule ⟨starts.1, rfl⟩ planned

variable {computed : Except ε α}

theorem bindExcept
    (raises : ∀ error, computed = .error error → ∀ state, frame state → before state →
      regime.allowed) (nextContract : ∀ value, computed = .ok value →
      regime.Keeps frame before (next value) last) :
    regime.Keeps frame before (Program.bind (Program.ofExcept computed) next) last :=
  Triple.bindExcept
    (fun error raised state starts => ⟨starts.1, raises error raised state starts.1 starts.2⟩)
    nextContract

variable {condition : Bool}

section

variable (refuses : condition = false → ∀ state, frame state → before state → regime.allowed)

include refuses

theorem require {after : Unit → σ → Prop}
    (accepts : condition = true → ∀ state, frame state → before state → after () state) :
    regime.Keeps frame before (Program.require condition error) after :=
  Triple.require
    (fun state starts holds => ⟨starts.1, accepts holds state starts.1 starts.2⟩)
    fun state starts fails => ⟨starts.1, refuses fails state starts.1 starts.2⟩

theorem bindRequire {next : Unit → Program κ σ ε β}
    (nextContract : condition = true → regime.Keeps frame before (next ()) last) :
    regime.Keeps frame before (Program.bind (Program.require condition error) next)
      last :=
  Triple.bindRequire
    (fun fails state starts => ⟨starts.1, refuses fails state starts.1 starts.2⟩) nextContract

end

theorem bindPasses {next : Unit → Program κ σ ε β} (passes : condition = true)
    (nextContract : regime.Keeps frame before (next ()) last) :
    regime.Keeps frame before (Program.bind (Program.require condition error) next)
      last := by
  apply bindRequire _ fun _ => nextContract
  intro fails
  rw [passes] at fails
  cases fails

theorem bindReturns (returns : computed = .ok value)
    (nextContract : regime.Keeps frame before (next value) last) :
    regime.Keeps frame before (Program.bind (Program.ofExcept computed) next) last := by
  apply bindExcept
  · intro error raised
    rw [returns] at raised
    cases raised
  · intro other same
    rw [returns] at same
    cases same
    exact nextContract

theorem bindRead {project : σ → α} (nextContract : ∀ value,
      regime.Keeps frame (fun state => before state ∧ project state = value) (next value) last) :
    regime.Keeps frame before (Program.bind (Program.read project) next) last :=
  bind (read fun _ _ starts => ⟨starts, rfl⟩) nextContract

theorem operation {label : κ} {effect : σ → Except ε α × σ}
    (acts : ∀ state, frame state → before state → frame (effect state).2 ∧
      Settles (effect state).1 (fun value => after value (effect state).2) regime.allowed) :
    regime.Keeps frame before (Program.operation label effect) after := by
  refine Triple.operation ?_ ?_
  · intro state entry error starts planned raises
    exact ⟨starts.1, starts.1, regime.tolerates planned raises⟩
  · intro state starts
    have outcome := acts state starts.1 starts.2
    refine ⟨outcome.1, ?_⟩
    revert outcome
    cases (effect state).1 <;> exact fun outcome => ⟨outcome.1, outcome.2⟩

variable {body : Program κ σ ε α}

theorem recover {handler : ε → Program κ σ ε α}
    (bodyContract : regime.Keeps frame before body after) (handlerContract : ∀ error,
      regime.Keeps frame (fun _ => regime.allowed) (handler error) after) :
    regime.Keeps frame before (Program.recover body handler) after :=
  Triple.recover bodyContract handlerContract

theorem finallyDo {cleanup : Program κ σ ε Unit}
    (bodyContract : regime.Keeps frame before body middle) (cleanupReturned : ∀ value,
      regime.Keeps frame (middle value) cleanup fun _ => after value)
    (cleanupRaised :
      regime.Keeps frame (fun _ => regime.allowed) cleanup fun _ _ => regime.allowed) :
    regime.Keeps frame before (Program.finallyDo body cleanup) after :=
  Triple.finallyDo bodyContract cleanupReturned fun _ => cleanupRaised

theorem onlyIf {body : Program κ σ ε Unit} {after : Unit → σ → Prop}
    (bodyContract : condition = true → regime.Keeps frame before body after)
    (skips : condition = false → ∀ state, frame state → before state → after () state) :
    regime.Keeps frame before (Program.onlyIf condition body) after :=
  Triple.onlyIf bodyContract fun off state starts => ⟨starts.1, skips off state starts.1 starts.2⟩

variable (invariant : γ → List β → σ → Prop) {body : γ → β → Program κ σ ε γ}

theorem foldEach (step : ∀ accumulator item items,
      regime.Keeps frame (invariant accumulator (item :: items))
        (body accumulator item) fun next => invariant next items) (items : List β)
    (accumulator : γ) :
    regime.Keeps frame (invariant accumulator items)
      (Program.foldEach body accumulator items) fun final => invariant final [] :=
  Triple.foldEach (fun accumulator items state => frame state ∧ invariant accumulator items state)
    step items accumulator

theorem forEach {body : β → Program κ σ ε Unit} (invariant : List β → σ → Prop)
    (step : ∀ item items,
      regime.Keeps frame (invariant (item :: items)) (body item)
        fun _ => invariant items) (items : List β) :
    regime.Keeps frame (invariant items) (Program.forEach body items) fun _ => invariant [] :=
  Triple.forEach (fun items state => frame state ∧ invariant items state) step items

/-- Loop rule with an invariant over the items already visited. -/
theorem foldSeen {items : List β}
    (step : ∀ accumulator seen item rest, items = seen ++ item :: rest →
      regime.Keeps frame (invariant accumulator seen)
        (body accumulator item) fun next => invariant next (seen ++ [item])) (accumulator : γ) :
    regime.Keeps frame (invariant accumulator [])
      (Program.foldEach body accumulator items) fun final => invariant final items :=
  Triple.foldSeen (fun accumulator seen state => frame state ∧ invariant accumulator seen state)
    step

theorem eachSeen {body : β → Program κ σ ε Unit} {items : List β} (invariant : List β → σ → Prop)
    (step : ∀ seen item rest, items = seen ++ item :: rest →
      regime.Keeps frame (invariant seen) (body item) fun _ => invariant (seen ++ [item])) :
    regime.Keeps frame (invariant []) (Program.forEach body items) fun _ => invariant items :=
  Triple.eachSeen (fun seen state => frame state ∧ invariant seen state) step

/-- Loop rule for a length cut into chunks: the invariant speaks of how much has been moved. -/
theorem chunks {chunk size : Nat} (positive : 0 < chunk)
    {body : γ → Nat × Nat → Program κ σ ε γ} (invariant : γ → Nat → σ → Prop)
    (step : ∀ accumulator copied count, Chunks.Piece chunk size copied count →
      regime.Keeps frame (invariant accumulator copied)
        (body accumulator (copied, count)) fun next => invariant next (copied + count))
    (accumulator : γ) :
    regime.Keeps frame (invariant accumulator 0)
      (Program.foldEach body accumulator (Chunks.chunks chunk size))
      fun final => invariant final size :=
  Chunks.chunksFrom_triple positive
    (fun accumulator copied state => frame state ∧ invariant accumulator copied state) step
    size 0 accumulator (by omega) (by omega)

variable {state : σ} {schedule : List (κ → Option ε)}

/-- The frame holds at the end of a run, however it ends. -/
theorem inFrame (contract : regime.Keeps frame before program after) (within : frame state)
    (starts : before state) (planned : ∀ entry ∈ schedule, regime.plan entry) :
    frame (program state schedule).state := by
  have outcome := (contract state schedule ⟨within, starts⟩ planned).2.2
  revert outcome
  cases (program state schedule).result with
  | ok value => exact fun outcome => outcome.1
  | error error => exact fun outcome => outcome.1

theorem returned (contract : regime.Keeps frame before program after) (inFrame : frame state)
    (starts : before state) (planned : ∀ entry ∈ schedule, regime.plan entry)
    (result : (program state schedule).result = .ok value) :
    frame (program state schedule).state ∧ after value (program state schedule).state := by
  have outcome := (contract state schedule ⟨inFrame, starts⟩ planned).2.2
  rw [result] at outcome
  exact outcome

/-- A contract under which nothing can raise promises a return. -/
theorem returns (contract : regime.Keeps frame before program after)
    (strict : ¬regime.allowed) (inFrame : frame state) (starts : before state) :
    ∃ value, (program state []).result = .ok value ∧ frame (program state []).state ∧
      after value (program state []).state := by
  have total : Triple regime.plan frame (fun state => frame state ∧ before state) program
      (fun value state => frame state ∧ after value state) fun _ _ => False :=
    .consequence contract (fun _ => id) (fun _ => id) (fun _ _ => id)
      fun _ _ fails => strict fails.2
  exact total.returns ⟨inFrame, starts⟩

end Contract

end Coldsnap.Program
