/-! # Programs whose operations may raise

A program runs over an explicit state. Every labelled operation first asks the
schedule whether it raises instead of taking effect; the run records every
state the program passes through, so that a property can be claimed of every
moment of a run and not only of its end.
-/

namespace Coldsnap

open List

/-- What one execution produced: its result, the final state, the part of the
schedule not yet used, and every state it passed through. -/
structure Run (κ σ ε α : Type) where
  result : Except ε α
  state : σ
  schedule : List (κ → Option ε)
  visited : List σ

/-- A program over states `σ`. The schedule holds one entry for each operation
still to come, saying for every label `κ` which exception the operation raises;
an exhausted schedule raises nothing. -/
def Program (κ σ ε α : Type) : Type :=
  σ → List (κ → Option ε) → Run κ σ ε α

namespace Program

variable {κ σ ε α β γ : Type}

/-- The exception the next operation raises under a schedule. -/
def raised (label : κ) : List (κ → Option ε) → Option ε
  | [] => none
  | entry :: _ => entry label

protected def pure (value : α) : Program κ σ ε α :=
  fun state schedule => ⟨.ok value, state, schedule, []⟩

protected def bind (first : Program κ σ ε α) (next : α → Program κ σ ε β) : Program κ σ ε β :=
  fun state schedule =>
    let run := first state schedule
    match run.result with
    | .error error => ⟨.error error, run.state, run.schedule, run.visited⟩
    | .ok value =>
      let rest := next value run.state run.schedule
      ⟨rest.result, rest.state, rest.schedule, run.visited ++ rest.visited⟩

variable {first : Program κ σ ε α} {next : α → Program κ σ ε β} {state : σ}
  {schedule : List (κ → Option ε)} {value : α}

theorem bind_of_ok (returned : (first state schedule).result = .ok value) :
    Program.bind first next state schedule =
      ⟨(next value (first state schedule).state (first state schedule).schedule).result,
        (next value (first state schedule).state (first state schedule).schedule).state,
        (next value (first state schedule).state (first state schedule).schedule).schedule,
        (first state schedule).visited ++
          (next value (first state schedule).state (first state schedule).schedule).visited⟩ := by
  simp [Program.bind, returned]

variable {error : ε}

theorem bind_of_error (stopped : (first state schedule).result = .error error) :
    Program.bind first next state schedule = ⟨.error error, (first state schedule).state,
      (first state schedule).schedule, (first state schedule).visited⟩ := by
  simp [Program.bind, stopped]

instance : Monad (Program κ σ ε) where
  pure := Program.pure
  bind := Program.bind

def raise (error : ε) : Program κ σ ε α :=
  fun state schedule => ⟨.error error, state, schedule, []⟩

def ofExcept : Except ε α → Program κ σ ε α
  | .ok value => Program.pure value
  | .error error => raise error

def require (condition : Bool) (error : ε) : Program κ σ ε Unit :=
  if condition then Program.pure () else raise error

def read (project : σ → α) : Program κ σ ε α :=
  fun state schedule => ⟨.ok (project state), state, schedule, []⟩

/-- Assign program variables. Nothing can fail here. -/
def assign (update : σ → σ) : Program κ σ ε Unit :=
  fun state schedule => ⟨.ok (), update state, schedule, [update state]⟩

/-- One operation of the outside world. A scheduled exception leaves the state
unchanged; otherwise the operation takes effect, and may itself refuse. -/
def operation (label : κ) (effect : σ → Except ε α × σ) : Program κ σ ε α :=
  fun state schedule =>
    match raised label schedule with
    | some error => ⟨.error error, state, schedule.tail, [state]⟩
    | none => ⟨(effect state).1, (effect state).2, schedule.tail, [(effect state).2]⟩

def recover (body : Program κ σ ε α) (handler : ε → Program κ σ ε α) : Program κ σ ε α :=
  fun state schedule =>
    let run := body state schedule
    match run.result with
    | .ok _ => run
    | .error error =>
      let rest := handler error run.state run.schedule
      ⟨rest.result, rest.state, rest.schedule, run.visited ++ rest.visited⟩

def finallyDo (body : Program κ σ ε α) (cleanup : Program κ σ ε Unit) : Program κ σ ε α :=
  (recover body fun error => cleanup.bind fun _ => raise error).bind fun value =>
    cleanup.bind fun _ => Program.pure value

def foldEach (body : γ → β → Program κ σ ε γ) : γ → List β → Program κ σ ε γ
  | accumulator, [] => Program.pure accumulator
  | accumulator, item :: items =>
    (body accumulator item).bind fun next => foldEach body next items

theorem foldEach_map {δ : Type} (body : γ → β → Program κ σ ε γ) (record : δ → β)
    (items : List δ) : ∀ accumulator, foldEach body accumulator (items.map record) =
      foldEach (fun state item => body state (record item)) accumulator items := by
  induction items with
  | nil => intro accumulator; rfl
  | cons item items induction =>
    intro accumulator
    rw [map_cons, foldEach, foldEach]
    congr 1
    funext next
    exact induction next

def forEach (body : β → Program κ σ ε Unit) : List β → Program κ σ ε Unit
  | [] => Program.pure ()
  | item :: items => (body item).bind fun _ => forEach body items

theorem forEach_eq_foldEach (body : β → Program κ σ ε Unit) (items : List β) :
    forEach body items = foldEach (fun _ => body) () items := by
  induction items with
  | nil => rfl
  | cons item items induction => rw [forEach, foldEach, induction]

def onlyIf (condition : Bool) (body : Program κ σ ε Unit) : Program κ σ ε Unit :=
  if condition then body else Program.pure ()

/-- The operations of a machine: what becomes of the errors `δ` of its calls, and what happens
beside their effects. -/
class Machine (κ σ : Type) (δ ε : outParam Type) where
  act {α : Type} : κ → (σ → Except δ α × σ) → Program κ σ ε α

export Machine (act)

def ask {δ : Type} [Machine κ σ δ ε] (label : κ) (answer : σ → Except δ α) : Program κ σ ε α :=
  act label fun state => (answer state, state)

/-- An operation whose effect is not visible. -/
def quiet {δ : Type} [Machine κ σ δ ε] (label : κ) : Program κ σ ε Unit :=
  ask label fun _ => .ok ()

/-! ## Rules of pre- and postconditions -/

def Triple (plan : (κ → Option ε) → Prop) (always : σ → Prop) (before : σ → Prop)
    (program : Program κ σ ε α) (after : α → σ → Prop) (failed : ε → σ → Prop) : Prop :=
  ∀ state schedule, before state → (∀ entry ∈ schedule, plan entry) →
    (∀ entry ∈ (program state schedule).schedule, plan entry) ∧
    (∀ passed ∈ (program state schedule).visited, always passed) ∧
    match (program state schedule).result with
    | .ok value => after value (program state schedule).state
    | .error error => failed error (program state schedule).state

variable {plan : (κ → Option ε) → Prop} {always before : σ → Prop}
variable {after : α → σ → Prop} {failed : ε → σ → Prop}
variable {program : Program κ σ ε α} {failed' : ε → σ → Prop} {after' : α → σ → Prop}
  {last : β → σ → Prop}

theorem Triple.consequence {always' before' : σ → Prop}
    (triple : Triple plan always before program after failed)
    (stronger : ∀ state, before' state → before state)
    (weakerAlways : ∀ state, always state → always' state)
    (weakerAfter : ∀ value state, after value state → after' value state)
    (weakerFailed : ∀ error state, failed error state → failed' error state) :
    Triple plan always' before' program after' failed' := by
  intro state schedule starts planned
  have outcome := triple state schedule (stronger state starts) planned
  refine ⟨outcome.1, fun passed member => weakerAlways _ (outcome.2.1 passed member), ?_⟩
  cases returned : (program state schedule).result with
  | ok value =>
    have reached := outcome.2.2
    simp only [returned] at reached ⊢
    exact weakerAfter _ _ reached
  | error error =>
    have reached := outcome.2.2
    simp only [returned] at reached ⊢
    exact weakerFailed _ _ reached

theorem Triple.starting {before' : σ → Prop} (stronger : ∀ state, before' state → before state)
    (triple : Triple plan always before program after failed) :
    Triple plan always before' program after failed :=
  triple.consequence stronger (fun _ => id) (fun _ _ => id) fun _ _ => id

theorem Triple.ending (weaker : ∀ value state, after value state → after' value state)
    (triple : Triple plan always before program after failed) :
    Triple plan always before program after' failed :=
  triple.consequence (fun _ => id) (fun _ => id) weaker fun _ _ => id

theorem Triple.failing (weaker : ∀ error state, failed error state → failed' error state)
    (triple : Triple plan always before program after failed) :
    Triple plan always before program after failed' :=
  triple.consequence (fun _ => id) (fun _ => id) (fun _ _ => id) weaker

/-- Nothing is promised, so any program keeps it. -/
theorem Triple.trivial :
    Triple (fun _ => True) (fun _ => True) before program (fun _ _ => True) (fun _ _ => True) := by
  intro state schedule _ _
  refine ⟨fun _ _ => True.intro, fun _ _ => True.intro, ?_⟩
  cases (program state schedule).result <;> exact True.intro

theorem Triple.pure (holds : ∀ state, before state → after value state) :
    Triple plan always before (Program.pure value) after failed :=
  fun state _ starts planned =>
    ⟨planned, forall_mem_nil always, holds state starts⟩

theorem Triple.raise (holds : ∀ state, before state → failed error state) :
    Triple plan always before (Program.raise error) after failed :=
  fun state _ starts planned =>
    ⟨planned, forall_mem_nil always, holds state starts⟩

theorem Triple.read {project : σ → α}
    (holds : ∀ state, before state → after (project state) state) :
    Triple plan always before (Program.read project) after failed :=
  fun state _ starts planned =>
    ⟨planned, forall_mem_nil always, holds state starts⟩

theorem Triple.assign {update : σ → σ} {after : Unit → σ → Prop}
    (keeps : ∀ state, before state → always (update state))
    (holds : ∀ state, before state → after () (update state)) :
    Triple plan always before (Program.assign update) after failed := by
  intro state schedule starts planned
  exact ⟨planned, forall_mem_singleton.mpr (keeps state starts), holds state starts⟩

variable {computed : Except ε α}

theorem Triple.ofExcept
    (returns : ∀ value state, before state → computed = .ok value → after value state)
    (raises : ∀ error state, before state → computed = .error error → failed error state) :
    Triple plan always before (Program.ofExcept computed) after failed := by
  cases computed with
  | ok value => exact .pure fun state starts => returns value state starts rfl
  | error error => exact .raise fun state starts => raises error state starts rfl

variable {condition : Bool}

theorem Triple.require {after : Unit → σ → Prop}
    (passes : ∀ state, before state → condition = true → after () state)
    (refuses : ∀ state, before state → condition = false → failed error state) :
    Triple plan always before (Program.require condition error) after failed := by
  cases condition with
  | true => exact .pure fun state starts => passes state starts rfl
  | false => exact .raise fun state starts => refuses state starts rfl

theorem Triple.bind {middle : α → σ → Prop}
    (firstTriple : Triple plan always before first middle failed)
    (nextTriple : ∀ value, Triple plan always (middle value) (next value) last failed) :
    Triple plan always before (Program.bind first next) last failed := by
  intro state schedule starts planned
  have firstOutcome := firstTriple state schedule starts planned
  simp only [Program.bind]
  cases returned : (first state schedule).result with
  | error error =>
    simp only [returned] at firstOutcome ⊢
    exact firstOutcome
  | ok value =>
    simp only [returned] at firstOutcome ⊢
    have rest := nextTriple value _ _ firstOutcome.2.2 firstOutcome.1
    exact ⟨rest.1, forall_mem_append.mpr ⟨firstOutcome.2.1, rest.2.1⟩, rest.2.2⟩

/-- The same rule for a middle assertion which is given. -/
theorem Triple.through (middle : α → σ → Prop)
    (firstTriple : Triple plan always before first middle failed)
    (nextTriple : ∀ value, Triple plan always (middle value) (next value) last failed) :
    Triple plan always before (Program.bind first next) last failed :=
  .bind firstTriple nextTriple

theorem Triple.assuming {fact : Prop}
    (given : fact → Triple plan always before program after failed) :
    Triple plan always (fun state => before state ∧ fact) program after failed :=
  fun state schedule starts => given starts.2 state schedule starts.1

theorem Triple.fixing {ι : Type} {before : ι → σ → Prop}
    (given : ∀ index, Triple plan always (before index) program after failed) :
    Triple plan always (fun state => ∃ index, before index state) program after failed :=
  fun state schedule ⟨index, starts⟩ planned => given index state schedule starts planned

/-- A pure computation in front: its result is known to what follows. -/
theorem Triple.bindExcept
    (raises : ∀ error, computed = .error error → ∀ state, before state → failed error state)
    (nextTriple : ∀ value, computed = .ok value →
      Triple plan always before (next value) last failed) :
    Triple plan always before (Program.bind (Program.ofExcept computed) next) last failed := by
  have computes : Triple plan always before (Program.ofExcept computed)
      (fun value state => before state ∧ computed = .ok value) failed :=
    .ofExcept (fun _ _ starts returned => ⟨starts, returned⟩)
      fun error state starts raised => raises error raised state starts
  exact .bind computes fun value => .assuming (nextTriple value)

/-- A check in front: what follows may rely on it. -/
theorem Triple.bindRequire {next : Unit → Program κ σ ε β}
    (refuses : condition = false → ∀ state, before state → failed error state)
    (nextTriple : condition = true → Triple plan always before (next ()) last failed) :
    Triple plan always before (Program.bind (Program.require condition error) next) last
      failed := by
  have checks : Triple plan always before (Program.require condition error)
      (fun _ state => before state ∧ condition = true) failed :=
    .require (fun _ starts holds => ⟨starts, holds⟩)
      fun state starts fails => refuses fails state starts
  exact .bind checks fun _ => .assuming nextTriple

/-- A read in front: what follows knows the value the state had. -/
theorem Triple.bindRead {project : σ → α} (nextTriple : ∀ value,
      Triple plan always (fun state => before state ∧ project state = value) (next value)
        last failed) :
    Triple plan always before (Program.bind (Program.read project) next) last failed := by
  have reads : Triple plan always before (Program.read project)
      (fun value state => before state ∧ project state = value) failed :=
    .read fun _ starts => ⟨starts, rfl⟩
  exact .bind reads nextTriple

theorem Triple.operation {label : κ} {effect : σ → Except ε α × σ}
    (raises : ∀ state entry error, before state → plan entry → entry label = some error →
      always state ∧ failed error state) (acts : ∀ state, before state → always (effect state).2 ∧
      match (effect state).1 with
      | .ok value => after value (effect state).2
      | .error error => failed error (effect state).2) :
    Triple plan always before (Program.operation label effect) after failed := by
  intro state schedule starts planned
  have tailPlanned : ∀ entry ∈ schedule.tail, plan entry :=
    fun entry member => planned entry (mem_of_mem_tail member)
  simp only [Program.operation]
  cases decision : raised label schedule with
  | some error =>
    cases schedule with
    | nil => cases decision
    | cons entry rest =>
      have outcome := raises state entry error starts (planned entry mem_cons_self) decision
      exact ⟨tailPlanned, forall_mem_singleton.mpr outcome.1, outcome.2⟩
  | none =>
    have outcome := acts state starts
    exact ⟨tailPlanned, forall_mem_singleton.mpr outcome.1, outcome.2⟩

variable {caught : ε → σ → Prop} {body : Program κ σ ε α}

theorem Triple.recover {handler : ε → Program κ σ ε α}
    (bodyTriple : Triple plan always before body after caught)
    (handlerTriple : ∀ error, Triple plan always (caught error) (handler error) after failed) :
    Triple plan always before (Program.recover body handler) after failed := by
  intro state schedule starts planned
  have outcome := bodyTriple state schedule starts planned
  simp only [Program.recover]
  cases returned : (body state schedule).result with
  | ok value =>
    simp only [returned] at outcome ⊢
    exact outcome
  | error error =>
    simp only [returned] at outcome ⊢
    have rest := handlerTriple error _ _ outcome.2.2 outcome.1
    exact ⟨rest.1, forall_mem_append.mpr ⟨outcome.2.1, rest.2.1⟩, rest.2.2⟩

/-- The cleanup runs after the body returned and after it raised. -/
theorem Triple.finallyDo {cleanup : Program κ σ ε Unit}
    {returned : α → σ → Prop} (bodyTriple : Triple plan always before body returned caught)
    (cleanupReturned : ∀ value,
      Triple plan always (returned value) cleanup (fun _ => after value) failed)
    (cleanupCaught : ∀ error,
      Triple plan always (caught error) cleanup (fun _ => failed error) failed) :
    Triple plan always before (Program.finallyDo body cleanup) after failed := by
  refine .bind (.recover bodyTriple fun error => ?_) fun value => ?_
  · exact .bind (cleanupCaught error) fun _ => .raise fun _ => id
  · exact .bind (cleanupReturned value) fun _ => .pure fun _ => id

variable {body : γ → β → Program κ σ ε γ}

/-- Loop rule: the invariant speaks of the accumulator and of the items still
to be processed. -/
theorem Triple.foldEach (invariant : γ → List β → σ → Prop) (step : ∀ accumulator item items,
      Triple plan always (invariant accumulator (item :: items)) (body accumulator item)
        (fun next => invariant next items) failed) :
    ∀ (items : List β) (accumulator : γ),
      Triple plan always (invariant accumulator items)
        (Program.foldEach body accumulator items)
        (fun final => invariant final []) failed
  | [], _ => .pure fun _ => id
  | item :: items, accumulator =>
    .bind (step accumulator item items) fun next =>
      .foldEach invariant step items next

variable (invariant : List β → σ → Prop)

theorem Triple.forEach {body : β → Program κ σ ε Unit} (step : ∀ item items,
      Triple plan always (invariant (item :: items)) (body item)
        (fun _ => invariant items) failed) (items : List β) :
    Triple plan always (invariant items) (Program.forEach body items)
      (fun _ => invariant []) failed := by
  rw [forEach_eq_foldEach]
  exact .foldEach (fun _ => invariant) (fun _ => step) items ()

theorem Triple.pinned (given : ∀ start, before start →
      Triple plan always (fun state => state = start) program after failed) :
    Triple plan always before program after failed :=
  fun state schedule starts => given state starts state schedule rfl

theorem Triple.foldSeen {items : List β} {initial : γ} (invariant : γ → List β → σ → Prop)
    (step : ∀ accumulator seen item rest, items = seen ++ item :: rest →
      Triple plan always (invariant accumulator seen) (body accumulator item)
        (fun next => invariant next (seen ++ [item])) failed) :
    Triple plan always (invariant initial []) (Program.foldEach body initial items)
      (fun final => invariant final items) failed := by
  apply Triple.consequence (.foldEach (fun accumulator rest state =>
    ∃ seen, items = seen ++ rest ∧ invariant accumulator seen state) _ items initial)
  · exact fun state starts => ⟨[], rfl, starts⟩
  · exact fun _ => id
  · rintro final state ⟨seen, split, ends⟩
    rw [append_nil] at split
    rwa [split]
  · exact fun _ _ => id
  · rintro accumulator item rest state schedule ⟨seen, split, starts⟩ planned
    have ran : Triple plan always (invariant accumulator seen) (body accumulator item)
        (fun next state => ∃ seen, items = seen ++ rest ∧ invariant next seen state) failed :=
      .ending (fun _ _ ends => ⟨seen ++ [item], by simp [split], ends⟩)
        (step accumulator seen item rest split)
    exact ran state schedule starts planned

theorem Triple.eachSeen {body : β → Program κ σ ε Unit} {items : List β}
    (step : ∀ seen item rest, items = seen ++ item :: rest →
      Triple plan always (invariant seen) (body item)
        (fun _ => invariant (seen ++ [item])) failed) :
    Triple plan always (invariant []) (Program.forEach body items)
      (fun _ => invariant items) failed := by
  rw [forEach_eq_foldEach]
  exact .foldSeen (fun _ => invariant) fun _ => step

theorem Triple.onlyIf {body : Program κ σ ε Unit} {after : Unit → σ → Prop}
    (bodyTriple : condition = true → Triple plan always before body after failed)
    (skips : condition = false → ∀ state, before state → after () state) :
    Triple plan always before (Program.onlyIf condition body) after failed := by
  cases condition with
  | true => exact bodyTriple rfl
  | false => exact .pure (skips rfl)

/-- What a triple says about a program that runs without scheduled exceptions
and cannot raise on its own: it returns. -/
theorem Triple.returns (triple : Triple plan always before program after fun _ _ => False)
    (starts : before state) :
    ∃ value, (program state []).result = .ok value ∧ after value (program state []).state := by
  have outcome := (triple state [] starts nofun).2.2
  cases returned : (program state []).result with
  | ok value =>
    simp only [returned] at outcome
    exact ⟨value, rfl, outcome⟩
  | error error =>
    simp only [returned] at outcome

end Program

end Coldsnap
