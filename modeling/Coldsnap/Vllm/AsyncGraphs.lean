import Coldsnap.Foundation.Transitions
import Mathlib.Data.Fintype.Basic

/-! # Deferred graph capture

The engine and the workers of `integrations/vllm/coldsnap_vllm_async_graphs.py` under the policy
`recreate-from-plan`: `_maybe_capture_after_step`, `_prepare_initialized_graph_restore` and the
methods of the workers which they call on all of them.
-/

namespace Coldsnap.Vllm

open Transitions

def graphCaptureRetryLimit : Nat := 1

inductive Phase where
  | eager
  | capturing
  | failed
  | ready
  | fallbackEager
deriving DecidableEq

structure Worker where
  phase : Phase
  forceEager : Bool
  stale : Bool

inductive Capture where
  | captures
  | fails (stale : Bool)
  | raises
deriving DecidableEq

namespace Worker

def capture (worker : Worker) (outcome : Capture) : Worker :=
  if worker.phase ≠ .eager then worker
  else
    match outcome with
    | .captures => { worker with phase := .ready, forceEager := false, stale := false }
    | .fails stale => { worker with phase := .failed, forceEager := true, stale := stale }
    | .raises => { worker with phase := .capturing, forceEager := false, stale := false }

def prepareRetry (worker : Worker) : Worker := { worker with phase := .eager, forceEager := true }

def fallback (worker : Worker) : Worker :=
  { worker with phase := .fallbackEager, forceEager := true }

end Worker

/-- A `collective_rpc`: it returns, or raises after it has reached some of the workers. -/
inductive Collective (workers : Nat) where
  | returns
  | raises (reached : Fin workers → Bool)

variable {workers : Nat}

def Collective.reaches : Collective workers → Fin workers → Bool
  | .returns, _ => true
  | .raises reached, worker => reached worker

def Collective.call (collective : Collective workers) (method : Fin workers → Worker → Worker)
    (all : Fin workers → Worker) : Fin workers → Worker :=
  fun worker => if collective.reaches worker then method worker (all worker) else all worker

def Collective.fails : Collective workers → Bool
  | .returns => false
  | .raises _ => true

/-- A capture: whether the scheduler was idle, and the eager steps executed since the last
initialized restore. -/
structure Start where
  idle : Bool
  executed : Nat

structure Engine (workers : Nat) where
  workers : Fin workers → Worker
  phase : Phase
  eagerSteps : Nat
  retries : Nat
  /-- The steps that were executed eagerly, and the captures, since the last restore. -/
  executed : Nat
  captures : List Start

inductive Warmup where
  | eager
  | warming
  | failed
  | ready

/-- What a step of the engine meets. -/
structure Step (workers : Nat) where
  modelExecuted : Bool
  warmup : Warmup
  armed : Bool
  idle : Bool
  outcomes : Fin workers → Capture
  capture : Collective workers
  retry : Collective workers
  fallback : Collective workers

/-- What `_prepare_initialized_graph_restore` meets. -/
structure Restore (workers : Nat) where
  initialized : Bool
  samePolicy : Bool
  gate : Collective workers

namespace Engine

section Steps

variable (engine : Engine workers) (step : Step workers)

def fallback (collective : Collective workers) : Option (Engine workers) :=
  if collective.fails then none
  else some { engine with
    workers := collective.call (fun _ => Worker.fallback) engine.workers
    phase := .fallbackEager }

def captured : Engine workers :=
  { engine with
    workers := step.capture.call (fun worker => (Worker.capture · (step.outcomes worker)))
      engine.workers
    phase := .capturing
    captures := ⟨step.idle, engine.executed⟩ :: engine.captures }

def retryable : Bool :=
  decide (∀ worker, (engine.workers worker).phase ≠ .ready → (engine.workers worker).stale = true)

def gated (collective : Collective workers) : Engine workers :=
  { engine with workers := collective.call (fun _ => Worker.prepareRetry) engine.workers }

def conclude : Option (Engine workers) :=
  if ∀ worker, (engine.workers worker).phase = .ready then some { engine with phase := .ready }
  else if engine.retries < graphCaptureRetryLimit ∧ engine.retryable then
    if step.retry.fails then (engine.gated step.retry).fallback step.fallback
    else some { engine.gated step.retry with retries := engine.retries + 1, phase := .eager }
  else engine.fallback step.fallback

def attempt : Option (Engine workers) :=
  if !step.armed || engine.eagerSteps < 1 || !step.idle then some engine
  else if step.capture.fails ∨ ∃ worker, step.outcomes worker = .raises then
    (engine.captured step).fallback step.fallback
  else (engine.captured step).conclude step

def maybeCaptureAfterStep : Option (Engine workers) :=
  if engine.phase ≠ .eager then some engine
  else
    match step.warmup with
    | .eager | .warming => some engine
    | .failed => engine.fallback step.fallback
    | .ready =>
      Engine.attempt
        { engine with eagerSteps := engine.eagerSteps + if step.modelExecuted then 1 else 0 } step

def AllEager : Prop :=
  ∀ worker, (engine.workers worker).forceEager = true

instance : Decidable engine.AllEager :=
  inferInstanceAs (Decidable (∀ _, _))

/-- A step of the engine, which is eager if every worker dispatches eagerly. -/
def process : Option (Engine workers) :=
  { engine with
    executed := engine.executed + if step.modelExecuted ∧ engine.AllEager then 1 else 0
    }.maybeCaptureAfterStep step

def prepareInitializedRestore (restore : Restore workers) : Option (Engine workers) :=
  if !restore.initialized then some engine
  else if !restore.samePolicy || restore.gate.fails then none
  else
    let workersGated := (engine.gated restore.gate).workers
    if workers = 0 ∨ ∃ worker, (workersGated worker).phase ≠ .eager then none
    else some ⟨workersGated, .eager, 0, 0, 0, []⟩

end Steps

end Engine

/-- A worker after its warmup. Without a calibration to reuse it has captured its graphs like
vLLM does. -/
def compileEagerFirst (reuseCalibration : Bool) : Worker :=
  if reuseCalibration then ⟨.eager, true, false⟩ else ⟨.ready, false, false⟩

/-- The workers agree on whether they reuse a calibration; the engine is not told. -/
def initial (reuseCalibration : Bool) (workers : Nat) : Engine workers :=
  ⟨fun _ => compileEagerFirst reuseCalibration, .eager, 0, 0, 0, []⟩

inductive Event (workers : Nat) where
  | step (step : Step workers)
  | restore (restore : Restore workers)

def next (engine : Engine workers) : Event workers → Option (Engine workers)
  | .step step => engine.process step
  | .restore restore => engine.prepareInitializedRestore restore

structure Correct (engine : Engine workers) : Prop where
  dispatch : (engine.phase = .ready ∧ ∀ worker, (engine.workers worker).phase = .ready ∧
    (engine.workers worker).forceEager = false) ∨ engine.AllEager
  starts : ∀ start ∈ engine.captures, start.idle = true ∧ 1 ≤ start.executed
  bounded : engine.captures.length ≤ graphCaptureRetryLimit + 1

structure Sound (engine : Engine workers) : Prop extends Correct engine where
  eager : engine.phase = .eager → (∀ worker, (engine.workers worker).phase = .eager ∧
    (engine.workers worker).forceEager = true) ∧ engine.eagerSteps ≤ engine.executed ∧
    engine.captures.length ≤ engine.retries ∧ engine.retries ≤ graphCaptureRetryLimit

variable {engine after : Engine workers} {step : Step workers} {event : Event workers}
  {collective : Collective workers}

theorem call_of_returns (returns : ¬collective.fails = true)
    (method : Fin workers → Worker → Worker) (all : Fin workers → Worker) (worker : Fin workers) :
    collective.call method all worker = method worker (all worker) := by
  cases collective with
  | returns => rfl
  | raises reached => exact absurd rfl returns

/-- Whatever happened before, a fallback leaves every worker eager. -/
theorem sound_fallback (done : engine.fallback collective = some after)
    (starts : ∀ start ∈ engine.captures, start.idle = true ∧ 1 ≤ start.executed)
    (bounded : engine.captures.length ≤ graphCaptureRetryLimit + 1) : Sound after := by
  unfold Engine.fallback at done
  split_ifs at done with returns
  cases done
  refine ⟨⟨.inr fun worker => ?_, starts, bounded⟩, by simp⟩
  simp only [call_of_returns returns]
  rfl

theorem gated_eager (returns : ¬collective.fails = true) (engine : Engine workers)
    (worker : Fin workers) :
    ((engine.gated collective).workers worker).phase = .eager ∧
      ((engine.gated collective).workers worker).forceEager = true := by
  simp only [Engine.gated, call_of_returns returns]
  exact ⟨rfl, rfl⟩

/-- A capture that does not raise ends in readiness, in a retry or in a fallback. -/
theorem sound_conclude (captured : ∀ worker, (engine.workers worker).phase = .ready →
      (engine.workers worker).forceEager = false)
    (starts : ∀ start ∈ engine.captures, start.idle = true ∧ 1 ≤ start.executed)
    (steps : engine.eagerSteps ≤ engine.executed)
    (bounded : engine.captures.length ≤ engine.retries + 1)
    (retries : engine.retries ≤ graphCaptureRetryLimit)
    (done : engine.conclude step = some after) : Sound after := by
  have few : engine.captures.length ≤ graphCaptureRetryLimit + 1 := by omega
  unfold Engine.conclude at done
  split_ifs at done with ready retry raises
  · cases done
    exact ⟨⟨.inl ⟨rfl, fun worker => ⟨ready worker, captured worker (ready worker)⟩⟩, starts, few⟩,
      by simp⟩
  · exact sound_fallback done starts few
  · cases done
    have gated := gated_eager raises engine
    exact ⟨⟨.inr fun worker => (gated worker).2, starts, few⟩,
      fun _ => ⟨gated, steps, bounded, retry.1⟩⟩
  · exact sound_fallback done starts few

theorem sound_attempt (done : engine.attempt step = some after) (sound : Sound engine)
    (phase : engine.phase = .eager) : Sound after := by
  rcases sound.eager phase with ⟨gated, steps, attempts, retries⟩
  unfold Engine.attempt at done
  split_ifs at done with waits raises
  · cases done
    exact sound
  all_goals
    have starts : ∀ start ∈ (engine.captured step).captures,
        start.idle = true ∧ 1 ≤ start.executed := by
      have before := sound.starts
      grind [Engine.captured]
    have once : (engine.captured step).captures.length ≤ engine.retries + 1 := by
      simpa [Engine.captured] using attempts
  · exact sound_fallback done starts (once.trans (Nat.succ_le_succ retries))
  · apply sound_conclude _ starts steps once retries done
    intro worker ready
    rw [not_or] at raises
    simp only [Engine.captured, call_of_returns raises.1, Worker.capture, (gated worker).1]
      at ready ⊢
    cases outcome : step.outcomes worker with
    | captures => rfl
    | fails stale => simp [outcome] at ready
    | raises => rfl

theorem sound_process (sound : Sound engine) (done : engine.process step = some after) :
    Sound after := by
  rcases sound with ⟨⟨dispatch, starts, bounded⟩, eager⟩
  unfold Engine.process Engine.maybeCaptureAfterStep at done
  generalize counted : engine.executed + _ = executed at done
  split at done
  · next phase =>
      cases done
      exact ⟨⟨dispatch, starts, bounded⟩, fun eager => absurd eager phase⟩
  · next phase =>
      have phase := not_not.mp phase
      rcases eager phase with ⟨gated, steps, attempts, retries⟩
      have allEager : engine.AllEager := fun worker => (gated worker).2
      simp only [allEager, and_true] at counted
      have stepped : ∀ eagerSteps ≤ executed, Sound { engine with eagerSteps, executed } :=
        fun _ later => ⟨⟨dispatch, starts, bounded⟩, fun _ => ⟨gated, later, attempts, retries⟩⟩
      split at done
      · cases done
        exact stepped _ (by omega)
      · cases done
        exact stepped _ (by omega)
      · exact sound_fallback done starts bounded
      · apply sound_attempt done (stepped _ _) phase
        dsimp only
        omega

/-- An initialized restore gates the workers, whatever they did before. -/
theorem sound_restore {restore : Restore workers}
    (sound : restore.initialized = false → Sound engine)
    (done : engine.prepareInitializedRestore restore = some after) : Sound after := by
  unfold Engine.prepareInitializedRestore at done
  dsimp only at done
  split_ifs at done with absent refused
  · cases done
    exact sound (by simpa using absent)
  · have returns : ¬restore.gate.fails = true := by grind
    cases done
    have gated := gated_eager returns engine
    exact ⟨⟨.inr fun worker => (gated worker).2, by simp, by simp⟩,
      fun _ => ⟨gated, le_rfl, le_rfl, Nat.zero_le _⟩⟩

theorem sound_next (sound : Sound engine) (done : next engine event = some after) :
    Sound after := by
  cases event with
  | step step => exact sound_process sound done
  | restore restore => exact sound_restore (fun _ => sound) done

/-- After every step that does not raise the engine is correct, if the workers have reused a
calibration, or else from the first initialized restore on. -/
theorem correct_after_steps (workers : Nat) (events : List (Event workers)) :
    Throughout next Correct (initial true workers) events ∧
      ∀ (engine after : Engine workers) (restore : Restore workers), restore.initialized = true →
        next engine (.restore restore) = some after → Throughout next Correct after events := by
  have start : Sound (initial true workers) := by
    constructor
    · constructor
      · exact .inr fun _ => rfl
      all_goals simp [initial]
    · simp [initial, compileEagerFirst]
  refine ⟨throughout_of_invariant sound_next Sound.toCorrect events start, ?_⟩
  intro engine after restore initialized done
  refine throughout_of_invariant sound_next Sound.toCorrect events (sound_restore ?_ done)
  intro absent
  rw [initialized] at absent
  cases absent

def busyStep : Step 1 :=
  ⟨true, .ready, true, false, fun _ => .captures, .returns, .returns, .returns⟩

/-- The worker has captured its graphs, and the engine still takes it for eager. -/
theorem synchronous_start_incorrect :
    ∃ after, next (initial false 1) (.step busyStep) = some after ∧ ¬Correct after := by
  refine ⟨_, rfl, ?_⟩
  rintro ⟨⟨phase, _⟩ | eager, _, _⟩
  · cases phase
  · cases eager 0

end Coldsnap.Vllm
