import Coldsnap.Foundation.Python
import Coldsnap.Foundation.Transitions

/-! # The gate of HTTP generation

The hooks of `coldsnap_sglang/plugin.py`. Those of the tokenizer manager set its status and pass a
request on to those of the scheduler. Generation is open while the status is `up`.
-/

namespace Coldsnap.Sglang.HttpGate

open Python Checked Transitions List

inductive ServerStatus where
  | starting
  | up
deriving DecidableEq

/-- The status, the paused regions, whether the weights hold those of the model, and the globals of
the plugin. Of `_recovery_resume_observation` only the presence is read. -/
structure Server where
  status : ServerStatus
  paused : List String
  hydrated : Bool
  recoveryResumeObservation : Bool
  restoredWeightUpdatePending : Bool

def Server.initial : Server := ⟨.up, [], true, false, false⟩

/-- The regions of the engine, whether it keeps the bytes of weights which it pauses, and the
model to hydrate from. -/
structure Setting where
  regions : List String
  backup : Bool
  modelPath : String

/-- What a request finds. An engine which fails has reached some of the regions. -/
structure Answers where
  before : Checked Unit
  engine : Checked Unit
  reached : String → Bool
  graphs : Checked Unit
  parameters : Checked Unit
  update : Checked (Option String)
  finish : Checked Unit

def recoveryWeightsResumeTag : String := "coldsnap_recovery_weights"
def recoveryRuntimeResumeTag : String := "coldsnap_recovery_runtime"

def tagsIncludeWeights (tags : List String) : Bool := tags.isEmpty || tags.contains "weights"

/-- A request without tags is one for all regions. -/
def Setting.named (setting : Setting) (tags : List String) : List String :=
  if tags.isEmpty then setting.regions else tags

def attempt (server : Server) (check : Checked Unit) (next : Server × Checked Unit) :
    Server × Checked Unit :=
  match check with
  | .ok () => next
  | .error error => (server, .error error)

def Server.pause (server : Server) (setting : Setting) (regions : List String) : Server :=
  { server with
    paused := regions ++ server.paused
    hydrated := server.hydrated && (setting.backup || !regions.contains "weights") }

def Server.resume (server : Server) (regions : List String) : Server :=
  { server with paused := server.paused.filter (· ∉ regions) }

section Calls

variable (setting : Setting) (answers : Answers) (tags : List String) (server : Server)

def releaseMemory : Server × Checked Unit :=
  let includesWeights := tagsIncludeWeights tags
  let regions := setting.named tags
  attempt server (if includesWeights then answers.before else .ok ()) <|
  attempt (server.pause setting (regions.filter answers.reached)) answers.engine
    (server.pause setting regions, if includesWeights then answers.finish
      else if tags.contains "cuda_graph" then answers.graphs else .ok ())

/-- The tags which the engine is asked to resume. -/
def engineTags : List String :=
  tags.filter (· ∉ [recoveryWeightsResumeTag, recoveryRuntimeResumeTag])

def checkPhase (server : Server) (tags : List String) : Checked Unit := do
  let recoveryWeights := tags.contains recoveryWeightsResumeTag
  let recoveryRuntime := tags.contains recoveryRuntimeResumeTag
  let includesWeights := tagsIncludeWeights (engineTags tags)
  require (!(recoveryWeights && recoveryRuntime))
    (runtimeError "ColdSnap SGLang recovery resume phase is ambiguous")
  require (!recoveryWeights || includesWeights)
    (runtimeError "ColdSnap SGLang recovery weight phase omitted weights")
  require (!(recoveryRuntime && includesWeights))
    (runtimeError "ColdSnap SGLang recovery runtime phase included weights")
  require (!recoveryRuntime || server.recoveryResumeObservation)
    (runtimeError "ColdSnap SGLang recovery runtime resumed before weight hydration")

def hydrate : Checked Unit := do
  require (setting.modelPath ≠ "")
    (runtimeError "ColdSnap SGLang recovery has no pinned model path")
  answers.parameters
  if let some message ← answers.update then
    throw (runtimeError ("ColdSnap SGLang recovery hydration failed: " ++ message))

def resumeMemory : Server × Checked Unit :=
  let recoveryWeights := tags.contains recoveryWeightsResumeTag
  let recoveryRuntime := tags.contains recoveryRuntimeResumeTag
  let includesWeights := tagsIncludeWeights (engineTags tags)
  let regions := setting.named (engineTags tags)
  attempt server (checkPhase server tags) <|
  attempt server (if includesWeights then answers.before else .ok ()) <|
  let restored := { server with restoredWeightUpdatePending :=
    if includesWeights then !recoveryWeights else server.restoredWeightUpdatePending }
  let resumed := restored.resume regions
  attempt (restored.resume (regions.filter answers.reached)) answers.engine <|
  attempt resumed (if tags.contains "cuda_graph" && !includesWeights then answers.graphs
    else .ok ()) <|
  if recoveryWeights then
    attempt resumed (hydrate setting answers)
      ({ resumed with hydrated := true, recoveryResumeObservation := true }, .ok ())
  else
    attempt resumed (if includesWeights || recoveryRuntime then answers.finish else .ok ())
      ({ resumed with recoveryResumeObservation :=
        server.recoveryResumeObservation && !recoveryRuntime }, .ok ())

def updateWeightsAfterRestore : Server :=
  { server with
    hydrated := server.hydrated || answers.update matches .ok none
    restoredWeightUpdatePending := false }

def gateTokenizerRelease : Server × Checked Unit :=
  releaseMemory setting answers tags { server with status := .starting }

def managedResume (server : Server) (tags : List String) : Bool :=
  tags.contains recoveryWeightsResumeTag || tags.contains recoveryRuntimeResumeTag ||
    server.status = .starting

def gateTokenizerResume : Server × Checked Unit :=
  if managedResume server tags then
    let (resumed, result) := resumeMemory setting answers tags { server with status := .starting }
    attempt resumed result
      (if tags.contains recoveryWeightsResumeTag then resumed else { resumed with status := .up },
        .ok ())
  else resumeMemory setting answers tags server

end Calls

inductive Event where
  | release (answers : Answers) (tags : List String)
  | resume (answers : Answers) (tags : List String)
  | update (answers : Answers)

def step (setting : Setting) (server : Server) : Event → Option Server
  | .release answers tags => some (gateTokenizerRelease setting answers tags server).1
  | .resume answers tags => some (gateTokenizerResume setting answers tags server).1
  | .update answers => some (updateWeightsAfterRestore answers server)

/-! ## Generation over memory which is there -/

def Server.Backed (server : Server) : Prop :=
  server.status = .up → server.paused = [] ∧ server.hydrated = true

/-- The engine does what a resume asks of it, and the tags are not those of the runtime phase. -/
def Answered (answers : Answers) (tags : List String) : Prop :=
  tags.contains recoveryRuntimeResumeTag = false ∧
  (tags.contains recoveryWeightsResumeTag = true → tagsIncludeWeights (engineTags tags) = true) ∧
  (tagsIncludeWeights (engineTags tags) = true → answers.before = .ok ()) ∧
  answers.engine = .ok ()

def Event.Releases (setting : Setting) (region : String) : Event → Prop
  | .release _ tags => region ∈ setting.named tags
  | _ => False

def Event.Resumes (setting : Setting) (region : String) : Event → Prop
  | .resume answers tags => Answered answers tags ∧ region ∈ setting.named (engineTags tags)
  | _ => False

/-- A completed weight phase, or a weight update. -/
def Event.Hydrates (setting : Setting) : Event → Prop
  | .resume answers tags => Answered answers tags ∧
    tags.contains recoveryWeightsResumeTag = true ∧ hydrate setting answers = .ok ()
  | .update answers => answers.update = .ok none
  | .release _ _ => False

/-- A request which may open generation names what was released and not resumed since, and the
weights, if the engine does not keep them, were hydrated since they were released. -/
def Covered (setting : Setting) (state : List Event × Server) : Event → Prop
  | .resume _ tags => managedResume state.2 tags = true →
    tags.contains recoveryWeightsResumeTag = false →
    (∀ region, Since (Event.Releases setting region) (Event.Resumes setting region) state.1 →
      region ∈ setting.named (engineTags tags)) ∧
    (Since (Event.Releases setting "weights") (Event.Hydrates setting) state.1 →
      setting.backup = true)
  | _ => True

/-- What a resume does to the server it finds, and what it has done if it succeeds. -/
structure Resumed (server : Server) (regions : List String) (phase : Bool)
    (outcome : Server × Checked Unit) : Prop where
  status : outcome.1.status = server.status
  paused : outcome.1.paused ⊆ server.paused
  hydrated : server.hydrated = true → outcome.1.hydrated = true
  done : phase = false → outcome.2 = .ok () →
    outcome.1.paused = (server.resume regions).paused ∧ outcome.1.hydrated = server.hydrated

variable {setting : Setting} {answers : Answers} {tags : List String} {server : Server}
  {event : Event} {history : List Event} {regions : List String}

theorem attempt_cases (holds : Server × Checked Unit → Prop) {check : Checked Unit}
    {rest : Server × Checked Unit} (failing : ∀ error, holds (server, .error error))
    (passing : holds rest) : holds (attempt server check rest) := by
  cases check with
  | ok => exact passing
  | error error => exact failing error

theorem attempt_ok {rest : Server × Checked Unit} : attempt server (.ok ()) rest = rest :=
  rfl

/-- What a release does to the server it finds. -/
structure Released (setting : Setting) (server : Server) (regions : List String)
    (outcome : Server × Checked Unit) : Prop where
  status : outcome.1.status = server.status
  paused : outcome.1.paused ⊆ regions ++ server.paused
  hydrated : outcome.1.hydrated = false →
    "weights" ∈ regions ∧ setting.backup = false ∨ server.hydrated = false

theorem pause_released {named : List String} (among : regions ⊆ named) {result : Checked Unit} :
    Released setting server named (server.pause setting regions, result) where
  status := rfl
  paused := append_subset.mpr
    ⟨fun _ member => mem_append_left _ (among member), subset_append_right _ _⟩
  hydrated lost := by
    cases before : server.hydrated with
    | false => exact .inr rfl
    | true =>
      have weights : setting.backup = false ∧ "weights" ∈ regions := by
        simpa [Server.pause, before] using lost
      exact .inl ⟨among weights.2, weights.1⟩

theorem releaseMemory_released :
    Released setting server (setting.named tags) (releaseMemory setting answers tags server) := by
  refine attempt_cases (Released _ _ _) (fun _ => ⟨rfl, subset_append_right _ _, .inr⟩) ?_
  exact attempt_cases (Released _ _ _) (fun _ => pause_released (filter_subset_self _))
    (pause_released (Subset.refl _))

theorem resume_subset : (server.resume regions).paused ⊆ server.paused :=
  filter_subset_self _

theorem resumeMemory_resumed :
    Resumed server (setting.named (engineTags tags)) (tags.contains recoveryWeightsResumeTag)
      (resumeMemory setting answers tags server) := by
  refine attempt_cases (Resumed _ _ _) (fun _ => ⟨rfl, Subset.refl _, id, nofun⟩) ?_
  refine attempt_cases (Resumed _ _ _) (fun _ => ⟨rfl, Subset.refl _, id, nofun⟩) ?_
  refine attempt_cases (Resumed _ _ _) (fun _ => ⟨rfl, resume_subset, id, nofun⟩) ?_
  refine attempt_cases (Resumed _ _ _) (fun _ => ⟨rfl, resume_subset, id, nofun⟩) ?_
  split
  · next weights =>
      refine attempt_cases (Resumed _ _ _) (fun _ => ⟨rfl, resume_subset, id, nofun⟩) ?_
      refine ⟨rfl, resume_subset, fun _ => rfl, fun other => ?_⟩
      rw [weights] at other
      cases other
  · refine attempt_cases (Resumed _ _ _) (fun _ => ⟨rfl, resume_subset, id, nofun⟩) ?_
    exact ⟨rfl, resume_subset, id, fun _ _ => ⟨rfl, rfl⟩⟩

theorem checkPhase_answered (answered : Answered answers tags) :
    checkPhase server tags = .ok () := by
  rcases answered with ⟨runtime, weights, -, -⟩
  simp only [checkPhase, runtime]
  cases phase : tags.contains recoveryWeightsResumeTag <;> simp_all [require]

theorem before_answered (answered : Answered answers tags) :
    (if tagsIncludeWeights (engineTags tags) then answers.before else .ok ()) = .ok () := by
  split
  · next weights => exact answered.2.2.1 weights
  · rfl

/-- Past the checks and the engine the regions are resumed, whatever fails after it. -/
theorem resumeMemory_paused (answered : Answered answers tags) :
    (resumeMemory setting answers tags server).1.paused =
      (server.resume (setting.named (engineTags tags))).paused := by
  let same (outcome : Server × Checked Unit) : Prop :=
    outcome.1.paused = (server.resume (setting.named (engineTags tags))).paused
  rw [resumeMemory, checkPhase_answered answered, before_answered answered, answered.2.2.2]
  simp only [attempt_ok]
  refine attempt_cases same (fun _ => rfl) ?_
  split <;> exact attempt_cases same (fun _ => rfl) rfl

theorem resumeMemory_hydrated (hydrates : Event.Hydrates setting (.resume answers tags)) :
    (resumeMemory setting answers tags server).1.hydrated = true := by
  rcases hydrates with ⟨answered, weights, hydrated⟩
  rw [resumeMemory, checkPhase_answered answered, before_answered answered, answered.2.2.2]
  simp only [weights, answered.2.1 weights, hydrated]
  cases tags.contains "cuda_graph" <;> rfl

/-- The gate changes no more of the memory than the resume which it passes on. -/
theorem gateTokenizerResume_memory : ∃ status,
    let outcome := (resumeMemory setting answers tags { server with status }).1
    (gateTokenizerResume setting answers tags server).1.paused = outcome.paused ∧
      (gateTokenizerResume setting answers tags server).1.hydrated = outcome.hydrated := by
  rw [gateTokenizerResume]
  split
  · refine ⟨.starting, ?_⟩
    generalize resumeMemory setting answers tags { server with status := .starting } = outcome
    let same (final : Server × Checked Unit) : Prop :=
      final.1.paused = outcome.1.paused ∧ final.1.hydrated = outcome.1.hydrated
    refine attempt_cases same (fun _ => ⟨rfl, rfl⟩) ?_
    split <;> exact ⟨rfl, rfl⟩
  · exact ⟨server.status, rfl, rfl⟩

/-- What is paused was released, and not resumed since. Weights which are not hydrated were
released, and not hydrated since. -/
structure Accounted (setting : Setting) (state : List Event × Server) : Prop where
  backed : state.2.Backed
  paused : ∀ region ∈ state.2.paused,
    Since (Event.Releases setting region) (Event.Resumes setting region) state.1
  hydrated : state.2.hydrated = false → setting.backup = false ∧
    Since (Event.Releases setting "weights") (Event.Hydrates setting) state.1

theorem backed_resume (accounted : Accounted setting (history, server))
    (covered : Covered setting (history, server) (.resume answers tags)) :
    (gateTokenizerResume setting answers tags server).1.Backed := by
  have resumed := @resumeMemory_resumed setting answers tags
  rw [gateTokenizerResume]
  rw [Covered] at covered
  cases managed : managedResume server tags with
  | false =>
    intro up
    have before := accounted.backed (resumed.status.symm.trans up)
    exact ⟨subset_nil.mp (before.1 ▸ resumed.paused), resumed.hydrated before.2⟩
  | true =>
    have resumed := @resumed { server with status := .starting }
    generalize resumeMemory setting answers tags { server with status := .starting } = outcome
      at resumed ⊢
    obtain ⟨final, result⟩ := outcome
    have closed : final.Backed := fun up => absurd (resumed.status.symm.trans up) nofun
    cases result with
    | error error => exact closed
    | ok =>
      cases weights : tags.contains recoveryWeightsResumeTag with
      | true => exact closed
      | false =>
        obtain ⟨named, kept⟩ := covered managed weights
        obtain ⟨paused, hydrated⟩ : final.paused = server.paused.filter _ ∧ final.hydrated = _ :=
          resumed.done weights rfl
        refine fun _ => ⟨?_, ?_⟩
        · change final.paused = []
          rw [paused, filter_eq_nil_iff]
          intro region member
          simp [named region (accounted.paused region member)]
        · change final.hydrated = true
          rw [hydrated, ← Bool.not_eq_false]
          intro lost
          obtain ⟨fresh, since⟩ := accounted.hydrated lost
          rw [kept since] at fresh
          cases fresh

theorem accounted_step {state next : List Event × Server} (accounted : Accounted setting state)
    (covered : Covered setting state event)
    (occurs : recorded (step setting) state event = some next) : Accounted setting next := by
  obtain ⟨history, server⟩ := state
  cases event with
  | release answers tags =>
    cases occurs
    have released :=
      @releaseMemory_released setting answers tags { server with status := .starting }
    refine ⟨fun up => absurd (released.status.symm.trans up) nofun, fun region member => ?_,
      fun lost => ?_⟩
    · rcases mem_append.mp (released.paused member) with named | before
      · exact .inl named
      · exact .inr ⟨id, accounted.paused region before⟩
    · rcases released.hydrated lost with ⟨named, fresh⟩ | before
      · exact ⟨fresh, .inl named⟩
      · exact (accounted.hydrated before).imp_right fun since => .inr ⟨id, since⟩
  | update answers =>
    cases occurs
    have lost : (updateWeightsAfterRestore answers server).hydrated = false →
        server.hydrated = false ∧ answers.update ≠ .ok none := by
      simp only [updateWeightsAfterRestore, Bool.or_eq_false_iff]
      refine And.imp_right fun other same => ?_
      rw [same] at other
      cases other
    refine ⟨fun up => ?_, fun region member => .inr ⟨id, accounted.paused region member⟩,
      fun after => ?_⟩
    · exact ⟨(accounted.backed up).1, Bool.or_eq_true_iff.mpr (.inl (accounted.backed up).2)⟩
    · obtain ⟨fresh, since⟩ := accounted.hydrated (lost after).1
      exact ⟨fresh, .inr ⟨(lost after).2, since⟩⟩
  | resume answers tags =>
    cases occurs
    obtain ⟨status, paused, hydrated⟩ :=
      @gateTokenizerResume_memory setting answers tags server
    have resumed := @resumeMemory_resumed setting answers tags { server with status }
    refine ⟨backed_resume accounted covered, fun region member => ?_, fun lost => ?_⟩
    · have member : region ∈ _ := paused ▸ member
      refine .inr ⟨fun resumes => ?_, accounted.paused region (resumed.paused member)⟩
      rw [resumeMemory_paused resumes.1, Server.resume, mem_filter] at member
      simp [resumes.2] at member
    · have lost : _ = false := hydrated ▸ lost
      have before : server.hydrated = false := by
        rw [← Bool.not_eq_true]
        exact fun kept => absurd (resumed.hydrated kept) (by simp [lost])
      refine (accounted.hydrated before).imp_right fun since => .inr ⟨fun hydrates => ?_, since⟩
      rw [resumeMemory_hydrated hydrates] at lost
      cases lost

/-- Generation opens neither over paused regions nor over placeholder weights if every request
which may open it is covered by the requests before it. -/
theorem covered_backed (setting : Setting) (events : List Event)
    (covered : Each (recorded (step setting)) (Covered setting) ([], .initial) events) :
    Throughout (step setting) Server.Backed .initial events := by
  have accounted : Accounted setting ([], .initial) := ⟨fun _ => ⟨rfl, rfl⟩, nofun, nofun⟩
  have kept := covered.throughout accounted_step accounted
  exact throughout_recorded (kept.mono fun _ => Accounted.backed)

def Answers.fine : Answers := ⟨.ok (), .ok (), fun _ => true, .ok (), .ok (), .ok none, .ok ()⟩

def recoverable : Setting := ⟨["kv_cache", "weights", "cuda_graph"], false, "model"⟩

/-- A recovery: all regions are released, and resumed in two phases. -/
def recovery : List Event :=
  [.release .fine [], .resume .fine [recoveryWeightsResumeTag, "weights"],
    .resume .fine [recoveryRuntimeResumeTag, "kv_cache", "cuda_graph"]]

theorem covered_backed_recovery :
    Throughout (step recoverable) Server.Backed .initial recovery ∧
      (run (step recoverable) .initial recovery).map
          (fun server => (server.status, server.paused, server.hydrated)) =
        some (.up, [], true) := by
  have answered : Answered .fine [recoveryWeightsResumeTag, "weights"] :=
    ⟨by decide, fun _ => by decide, fun _ => rfl, rfl⟩
  have weights : recoverable.named (engineTags [recoveryWeightsResumeTag, "weights"]) =
      ["weights"] := by decide
  have runtime : recoverable.named
      (engineTags [recoveryRuntimeResumeTag, "kv_cache", "cuda_graph"]) =
      ["kv_cache", "cuda_graph"] := by decide
  refine ⟨covered_backed _ _ ?_, by decide +kernel⟩
  rintro _ ⟨⟩
  refine ⟨trivial, ?_⟩
  rintro _ ⟨⟩
  refine ⟨fun _ => nofun, ?_⟩
  rintro _ ⟨⟩
  refine ⟨fun _ _ => ⟨?_, ?_⟩, trivial⟩
  · rintro region (⟨⟨⟩⟩ | ⟨other, named | ⟨-, ⟨⟩⟩⟩)
    have resumes : region ≠ "weights" := by
      rintro rfl
      exact other ⟨answered, by simp [weights]⟩
    rw [runtime]
    have named : region ∈ ["kv_cache", "weights", "cuda_graph"] := named
    simpa [resumes] using named
  · rintro (⟨⟨⟩⟩ | ⟨other, -⟩)
    exact absurd ⟨answered, by decide, rfl⟩ other

/-- After all regions were released, a resume of the cache alone opens generation. -/
theorem opened_over_paused :
    (run (step recoverable) .initial [.release .fine [], .resume .fine ["kv_cache"]]).map
        (fun server => (server.status, server.paused, server.hydrated)) =
      some (.up, ["weights", "cuda_graph"], false) := by
  decide +kernel

end Coldsnap.Sglang.HttpGate
