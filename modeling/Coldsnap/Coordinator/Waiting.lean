import Coldsnap.Coordinator.Server

/-! # Waiting for a key

A blocking get captures the change channel in the critical section in which it
finds its key absent, and whoever stores a key replaces the channel in the same
section. So a get which is parked on the current channel has missed nothing.
-/

namespace Coldsnap.Coordinator

open List Function

theorem execute_quiet (maxValue : Nat) (store : Store) (request : Request)
    (quiet : (execute maxValue store request).signals = false) :
    (execute maxValue store request).store = store := by
  have done := executed maxValue store request
  generalize execute maxValue store request = effect at done quiet
  cases done <;> first | rfl | cases quiet

variable {maxValue : Nat} {store : Store} {request : Request}

/-- Only a blocking get which does not find its key goes without an answer. -/
theorem execute_unanswered (unanswered : (execute maxValue store request).response = none) :
    (request.blocks = true ∧ request.key ≠ []) ∧ store request.key = none ∧
      execute maxValue store request = ⟨none, store, false⟩ := by
  have done := executed maxValue store request
  generalize execute maxValue store request = effect at done unanswered ⊢
  cases done
  case absent asked named blocks missing =>
    exact ⟨⟨by simp [Request.blocks, asked, blocks], named⟩, missing, rfl⟩
  all_goals cases unanswered

/-- A blocking get which finds its key answers with the value. -/
theorem execute_present {value : Bytes} (blocks : request.blocks = true)
    (named : request.key ≠ []) (present : store request.key = some value) :
    execute maxValue store request = .answer store .ok value := by
  simp only [Request.blocks, Bool.and_eq_true, decide_eq_true_eq] at blocks
  simp [execute, blocks.1, named, present]

/-- A blocking get which does not find its key waits. -/
theorem execute_missing (blocks : request.blocks = true) (named : request.key ≠ [])
    (missing : store request.key = none) :
    execute maxValue store request = ⟨none, store, false⟩ := by
  simp only [Request.blocks, Bool.and_eq_true, decide_eq_true_eq, bne_iff_ne] at blocks
  simp [execute, blocks.1, named, missing, blocks.2]

theorem execute_keeps {key : Bytes} (present : store key ≠ none)
    (kept : request.operation = .delete → request.key ≠ key) :
    (execute maxValue store request).store key ≠ none := by
  have done := executed maxValue store request
  generalize execute maxValue store request = effect at done ⊢
  have changed : ∀ value answer,
      (Effect.change store request.key (some value) answer).store key ≠ none := by
    by_cases same : key = request.key
    · simp [Effect.change, same]
    · simpa [Effect.change, update_of_ne same] using present
  cases done
  case delete asked =>
    have different : key ≠ request.key := fun same => kept asked same.symm
    simpa [Effect.change, update_of_ne different] using present
  all_goals first | exact present | exact changed _ _

/-! ## Parked gets -/

/-- A parked client waits for a key, and its channel is an old one unless the key
is still absent. -/
def Phase.Attends (store : Store) (channel : Nat) : Phase → Prop
  | .parked call captured =>
    (call.request.blocks = true ∧ call.request.key ≠ []) ∧ captured ≤ channel ∧
      (captured = channel → store call.request.key = none)
  | _ => True

def Attentive (state : State) : Prop :=
  ∀ client, (state.clients client).Attends state.store state.channel

variable {channel : Nat} {phase : Phase}

theorem Phase.Attends.signal {changed : Store} (attends : phase.Attends store channel) :
    phase.Attends changed (channel + 1) := by
  cases phase with
  | parked call captured =>
    have old := attends.2.1
    exact ⟨attends.1, by omega, fun current => by omega⟩
  | _ => trivial

variable {client : Nat}

theorem attends_update {clients : Nat → Phase}
    (attends : ∀ client, (clients client).Attends store channel) (new : phase.Attends store channel)
    (other : Nat) : (update clients client phase other).Attends store channel := by
  by_cases same : other = client
  · rw [same, update_self]
    exact new
  · rw [update_of_ne same]
    exact attends other

variable {config : Config}

theorem Attentive.perform {state : State} (attentive : Attentive state) {call : Call} :
    Attentive (state.perform config client call) := by
  have quiet := execute_quiet config.maxValue state.store call.request
  have unanswered := @execute_unanswered config.maxValue state.store call.request
  simp only [State.perform]
  generalize execute config.maxValue state.store call.request = effect at quiet unanswered ⊢
  apply attends_update
  · cases signals : effect.signals with
    | true =>
      intro other
      exact (attentive other).signal
    | false =>
      rw [quiet signals, if_neg Bool.false_ne_true]
      exact attentive
  · cases response : effect.response with
    | some response => trivial
    | none =>
      rcases unanswered response with ⟨blocks, missing, rfl⟩
      exact ⟨blocks, Nat.le_refl _, fun _ => missing⟩

variable {state next : State} {event : Event}

section

variable (transition : Transition config state event next)

include transition

theorem Transition.attentive (attentive : Attentive state) : Attentive next := by
  cases transition with
  | perform ready => exact attentive.perform
  | expireParked running parked =>
    rename_i client call channel
    have attends := attentive client
    rw [parked] at attends
    exact attends_update attentive attends
  | stop => exact attentive
  | _ => exact attends_update attentive trivial

theorem Transition.parked {call : Call} (parked : next.clients client = .parked call channel) :
    event = .run client ∨ event ≠ .run client ∧ ∃ earlier : Call,
      earlier.request = call.request ∧ state.clients client = .parked earlier channel := by
  by_cases own : event.client = some client
  · cases transition with
    | perform ready => cases own; exact .inl rfl
    | expireParked running before =>
      rename_i mover earlier captured
      cases own
      rw [State.setClient_self] at parked
      cases parked
      exact .inr ⟨nofun, earlier, rfl, before⟩
    | stop => cases own
    | _ =>
      cases own
      simp only [State.setClient_self, State.invoke_self, State.respond_self] at parked
      cases parked
  · right
    rw [transition.frame own] at parked
    refine ⟨?_, call, rfl, parked⟩
    rintro rfl
    exact own rfl

/-- The channel never goes back, and while it stays the store stays. -/
theorem Transition.signals :
    state.channel < next.channel ∨ next.channel = state.channel ∧ next.store = state.store := by
  cases transition with
  | perform ready =>
    rename_i client call
    simp only [State.perform]
    cases signals : (execute config.maxValue state.store call.request).signals with
    | true => exact .inl (Nat.lt_succ_self _)
    | false => exact .inr ⟨rfl, execute_quiet _ _ _ signals⟩
  | _ => exact .inr ⟨rfl, rfl⟩

theorem Transition.history : state.history ⊆ next.history := by
  cases transition with
  | invoke idle admitted => exact subset_append_left _ _
  | perform ready => exact subset_append_left _ _
  | deliver answered => exact subset_append_left _ _
  | _ => exact .refl _

theorem Transition.running (running : state.stopping = false) (goesOn : event ≠ .stop) :
    next.stopping = false := by
  cases transition with
  | stop => exact absurd rfl goesOn
  | _ => exact running

end

theorem attentive_of_run {events : List Event}
    (reached : run config .initial events = some state) : Attentive state := by
  have initially : Attentive .initial := fun _ => trivial
  exact run_induction (fun attentive transition => transition.attentive attentive) initially reached

/-- The key was absent in every state since the client last looked it up. -/
def AbsentSinceLook (config : Config) (events : List Event) (client : Nat) (key : Bytes) : Prop :=
  ∃ earlier later, events = earlier ++ .run client :: later ∧ .run client ∉ later ∧
    ∀ first second state, later = first ++ second →
      run config .initial (earlier ++ .run client :: first) = some state → state.store key = none

theorem absentSinceLook :
    ∀ {events : List Event} {state : State} {call : Call},
      run config .initial events = some state →
      state.clients client = .parked call state.channel →
      AbsentSinceLook config events client call.request.key := by
  intro events
  induction events using reverseRecOn with
  | nil => intro state call reached parked; cases reached; cases parked
  | append_singleton events event induction =>
    intro state call reached parked
    have absent : state.store call.request.key = none := by
      have attends := attentive_of_run reached client
      rw [parked] at attends
      exact attends.2.2 rfl
    rcases run_snoc reached with ⟨before, ran, transition⟩
    rcases transition.parked parked with rfl | ⟨other, earlier, same, was⟩
    · -- the look itself
      refine ⟨events, [], rfl, not_mem_nil, ?_⟩
      intro first second middle split again
      rcases append_eq_nil_iff.mp split.symm with ⟨rfl, rfl⟩
      cases reached.symm.trans again
      exact absent
    · -- the client was parked on the same channel, so no signal came
      have attends := attentive_of_run ran client
      rw [was] at attends
      have current : state.channel = before.channel := by
        rcases transition.signals with grown | ⟨kept, _⟩
        · have old := attends.2.1
          omega
        · exact kept
      rw [current] at was
      rcases induction ran was with ⟨start, later, split, unseen, missing⟩
      refine ⟨start, later ++ [event], ?_, ?_, ?_⟩
      · rw [split, append_assoc, cons_append]
      · intro member
        rcases mem_append.mp member with early | last
        · exact unseen early
        · exact other (mem_singleton.mp last).symm
      · intro first second middle whole again
        rcases eq_nil_or_concat second with rfl | ⟨rest, last, rfl⟩
        · rw [append_nil] at whole
          subst whole
          rw [split, append_assoc, cons_append] at reached
          cases reached.symm.trans again
          exact absent
        · rw [concat_eq_append, ← append_assoc] at whole
          rcases append_inj' whole rfl with ⟨shorter, _⟩
          rw [← same]
          exact missing first rest middle shorter again

/-! ## Waking up -/

def Expires (client number : Nat) (state : State) (event : Event) : Prop :=
  event = .expire client ∧ (state.clients client).number = some number

def Stores (config : Config) (key : Bytes) (state : State) (event : Event) : Prop :=
  ∃ client call, event = .run client ∧ state.clients client = .ready call ∧
    call.request.key = key ∧
    (call.request.operation = .set ∨ call.request.operation = .add ∨
      call.request.operation = .append) ∧
    ∃ value, (execute config.maxValue state.store call.request).response = some ⟨.ok, value⟩

def Deletes (key : Bytes) (state : State) (event : Event) : Prop :=
  ∃ client call, event = .run client ∧ state.clients client = .ready call ∧
    call.request.key = key ∧ call.request.operation = .delete

def Finds (client : Nat) (key value : Bytes) (state : State) (event : Event) : Prop :=
  event = .run client ∧ state.store key = some value

/-- How far a blocking get has come which does not time out. -/
inductive Stage (state : State) (client : Nat) (call : Call) (found : Bytes → Prop) : Prop where
  | parked (channel : Nat) (parked : state.clients client = .parked call channel)
  | ready (ready : state.clients client = .ready call)
  | answered (value : Bytes) (looked : found value)
      (answered : state.clients client = .answered (some call.number) ⟨.ok, value⟩)
  | responded (value : Bytes) (looked : found value)
      (responded : .responded call.number ⟨.ok, value⟩ ∈ state.history)

section Stages

variable {call : Call} {found : Bytes → Prop}

theorem Stage.weaken {other : Bytes → Prop} (stage : Stage state client call found)
    (weaker : ∀ value, found value → other value) : Stage state client call other := by
  cases stage with
  | parked channel parked => exact .parked channel parked
  | ready ready => exact .ready ready
  | answered value looked answered => exact .answered value (weaker value looked) answered
  | responded value looked responded => exact .responded value (weaker value looked) responded

theorem Stage.frame (stage : Stage state client call found)
    (transition : Transition config state event next) (other : event.client ≠ some client) :
    Stage next client call found := by
  have same := transition.frame other
  cases stage with
  | parked channel parked => exact .parked channel (same.trans parked)
  | ready ready => exact .ready (same.trans ready)
  | answered value looked answered => exact .answered value looked (same.trans answered)
  | responded value looked responded =>
    exact .responded value looked (transition.history responded)

theorem run_running {start : State} (running : start.stopping = false) :
    ∀ {events : List Event} {final : State}, .stop ∉ events →
      run config start events = some final → final.stopping = false := by
  intro events
  induction events using reverseRecOn with
  | nil => intro final _ ran; cases ran; exact running
  | append_singleton events event induction =>
    intro final goesOn ran
    rw [mem_append, mem_singleton] at goesOn
    rcases run_snoc ran with ⟨state, before, transition⟩
    apply transition.running (induction (fun member => goesOn (.inl member)) before)
    exact fun stops => goesOn (.inr stops.symm)

section

variable (blocks : call.request.blocks = true) (named : call.request.key ≠ [])

include blocks named

/-- A look answers if the key is there, and parks the get otherwise. -/
theorem Stage.look (finds : ∀ value, state.store call.request.key = some value → found value) :
    Stage (state.perform config client call) client call found := by
  cases present : state.store call.request.key with
  | some value =>
    apply Stage.answered value (finds value present)
    apply State.perform_answered
    rw [execute_present blocks named present]
    rfl
  | none =>
    apply Stage.parked state.channel
    apply State.perform_parked
    rw [execute_missing blocks named present]

/-- One event of a run in which the get does not time out. -/
theorem Stage.advances (stage : Stage state client call found) (patient : call.expired = false)
    (running : state.stopping = false) (transition : Transition config state event next)
    (waits : ¬Expires client call.number state event)
    (finds : ∀ value, Finds client call.request.key value state event → found value) :
    Stage next client call found := by
  by_cases own : event.client = some client
  swap
  · exact stage.frame transition own
  cases stage with
  | responded value looked responded =>
    exact .responded value looked (transition.history responded)
  | parked channel parked =>
    rcases transition.of_parked own parked with ⟨_, rfl⟩ | ⟨rfl, _⟩ | ⟨_, ended, _⟩
    · exact .ready State.setClient_self
    · exact absurd ⟨rfl, by rw [parked]; rfl⟩ waits
    · rw [patient, running] at ended
      simp at ended
  | ready ready =>
    rcases transition.of_ready own ready with ⟨rfl, rfl⟩ | ⟨rfl, _⟩
    · exact Stage.look blocks named fun value present => finds value ⟨rfl, present⟩
    · exact absurd ⟨rfl, by rw [ready]; rfl⟩ waits
  | answered value looked answered =>
    rw [transition.of_answered own answered]
    apply Stage.responded value looked
    exact mem_concat_self

/-- The get along a run in which it does not time out. -/
theorem stage_of_run {start : State} (parked : start.clients client = .parked call channel)
    (patient : call.expired = false) (running : start.stopping = false) :
    ∀ {events : List Event} {final : State}, .stop ∉ events →
      ¬Happens config start events (Expires client call.number) →
      run config start events = some final →
      Stage final client call fun value =>
        Happens config start events (Finds client call.request.key value) := by
  intro events
  induction events using reverseRecOn with
  | nil => intro final _ _ ran; cases ran; exact .parked channel parked
  | append_singleton events event induction =>
    intro final goesOn waits ran
    rw [mem_append, mem_singleton] at goesOn
    rcases run_snoc ran with ⟨state, before, transition⟩
    have earlier := induction (fun member => goesOn (.inl member))
      (fun expires => waits expires.snoc) before
    have stage : Stage state client call fun value =>
        Happens config start (events ++ [event]) (Finds client call.request.key value) :=
      earlier.weaken fun value happens => happens.snoc
    apply stage.advances blocks named patient
      (run_running running (fun member => goesOn (.inl member)) before) transition
    · exact fun expires => waits (happens_last before expires)
    · exact fun value => happens_last before

theorem Stage.finishes {value : Bytes} (stage : Stage state client call found)
    (attentive : Attentive state) (present : state.store call.request.key = some value) :
    (∃ seen, found seen ∧ (state.clients client = .answered (some call.number) ⟨.ok, seen⟩ ∨
      .responded call.number ⟨.ok, seen⟩ ∈ state.history)) ∨
    ∃ steps ∈ [[Event.wake client, .run client], [.run client]], ∃ final,
      run config state steps = some final ∧
        final.clients client = .answered (some call.number) ⟨.ok, value⟩ := by
  have looks : ∀ ready : State, ready.store = state.store →
      (ready.perform config client call).clients client =
        .answered (some call.number) ⟨.ok, value⟩ := by
    intro ready same
    apply State.perform_answered
    rw [same, execute_present blocks named present]
    rfl
  cases stage with
  | answered seen looked answered => exact .inl ⟨seen, looked, .inl answered⟩
  | responded seen looked responded => exact .inl ⟨seen, looked, .inr responded⟩
  | ready ready =>
    right
    refine ⟨[.run client], mem_cons_of_mem _ mem_cons_self,
      state.perform config client call, ?_, looks state rfl⟩
    rw [run, step, ready]
    rfl
  | parked channel parked =>
    have closed : channel ≠ state.channel := by
      rintro rfl
      have attends := attentive client
      rw [parked] at attends
      cases (attends.2.2 rfl).symm.trans present
    right
    let woken := state.setClient client (.ready call)
    refine ⟨[.wake client, .run client], mem_cons_self, woken.perform config client call,
      ?_, looks woken rfl⟩
    have wakes : step config state (.wake client) = some woken := by
      rw [step, parked]
      exact if_pos closed
    have ready : woken.clients client = .ready call := State.setClient_self
    rw [run, wakes, Option.bind_some, run, step, ready]
    rfl

end

end Stages

/-! ## Stored keys -/

section Stored

variable {key : Bytes}

theorem Stores.present (transition : Transition config state event next)
    (stores : Stores config key state event) : next.store key ≠ none := by
  rcases stores with ⟨client, call, rfl, ready, rfl, asked, value, answered⟩
  cases transition with
  | perform other =>
    cases other.symm.trans ready
    have done := executed config.maxValue state.store call.request
    simp only [State.perform]
    generalize execute config.maxValue state.store call.request = effect at done answered ⊢
    cases done <;> simp_all [Effect.change, Effect.answer]

theorem Transition.present (transition : Transition config state event next)
    (present : state.store key ≠ none) (kept : ¬Deletes key state event) :
    next.store key ≠ none := by
  cases transition with
  | perform ready =>
    apply execute_keeps present
    intro asked same
    exact kept ⟨_, _, rfl, ready, same, asked⟩
  | _ => exact present

theorem present_of_run {start : State} {write : Event} (stores : Stores config key start write) :
    ∀ {events : List Event} {final : State},
      ¬Happens config start (write :: events) (Deletes key) →
      run config start (write :: events) = some final → final.store key ≠ none := by
  intro events
  induction events using reverseRecOn with
  | nil =>
    intro final _ ran
    have single : run config start ([] ++ [write]) = some final := ran
    rcases run_snoc single with ⟨state, same, transition⟩
    cases same
    exact stores.present transition
  | append_singleton events event induction =>
    intro final kept ran
    rw [← cons_append] at kept ran
    rcases run_snoc ran with ⟨state, before, transition⟩
    apply transition.present (induction (fun deletes => kept deletes.snoc) before)
    exact fun deletes => kept (happens_last before deletes)

end Stored

/-- In every interleaving a blocking get misses no wake-up. While it is parked on
the current channel, its key was absent ever since it last looked; and after the
key is stored, unless the key is deleted again or the wait times out, the get has
answered with a value it found or its own next steps do so with the value that is
there. -/
theorem blockingGet_wakes (config : Config) {events : List Event} {state : State} {client : Nat}
    {call : Call} {channel : Nat} (reached : run config .initial events = some state)
    (parked : state.clients client = .parked call channel) :
    (channel = state.channel → AbsentSinceLook config events client call.request.key) ∧
    ∀ before write after middle final, .stop ∉ events ++ before ++ write :: after →
      run config state before = some middle →
      Stores config call.request.key middle write →
      run config middle (write :: after) = some final →
      ¬Happens config middle (write :: after) (Deletes call.request.key) →
      call.expired = false →
      ¬Happens config state (before ++ write :: after) (Expires client call.number) →
      (∃ value, Happens config state (before ++ write :: after)
          (Finds client call.request.key value) ∧
        (final.clients client = .answered (some call.number) ⟨.ok, value⟩ ∨
          .responded call.number ⟨.ok, value⟩ ∈ final.history)) ∨
      ∃ value, final.store call.request.key = some value ∧
        ∃ steps ∈ [[Event.wake client, .run client], [.run client]], ∃ answered,
          run config final steps = some answered ∧
            answered.clients client = .answered (some call.number) ⟨.ok, value⟩ := by
  have attends := attentive_of_run reached client
  rw [parked] at attends
  constructor
  · rintro rfl
    exact absentSinceLook reached parked
  · intro before write after middle final goesOn toMiddle stores toFinal kept patient waits
    simp only [mem_append, not_or] at goesOn
    have ran : run config state (before ++ write :: after) = some final := by
      rw [run_append, toMiddle]
      exact toFinal
    have running := run_running rfl goesOn.1.1 reached
    have stage := stage_of_run attends.1.1 attends.1.2 parked patient running
      (by simpa using ⟨goesOn.1.2, by simpa using goesOn.2⟩) waits ran
    have whole : run config .initial (events ++ (before ++ write :: after)) = some final := by
      rw [run_append, reached]
      exact ran
    have attentive := attentive_of_run whole
    rcases Option.ne_none_iff_exists'.mp (present_of_run stores kept toFinal) with ⟨value, present⟩
    rcases stage.finishes attends.1.1 attends.1.2 attentive present with done | pending
    · exact .inl done
    · exact .inr ⟨value, present, pending⟩

def exampleGet : Request := ⟨.get, 9, [7], [1], []⟩

def exampleSet : Request := ⟨.set, 0, [7], [1], [5]⟩

def exampleWaiting : State :=
  (State.initial.invoke 0 exampleGet).perform .small 0 ⟨0, exampleGet, false⟩

def exampleStoring : State := exampleWaiting.invoke 1 exampleSet

def exampleStored : State := exampleStoring.perform .small 1 ⟨1, exampleSet, false⟩

theorem blockingGet_wakes_example :
    AbsentSinceLook .small [.connect 0 (smallRequest 2 9 [1] []) "", .run 0] 0 [1] ∧
    ∃ value, exampleStored.store [1] = some value ∧
      ∃ steps ∈ [[Event.wake 0, .run 0], [.run 0]], ∃ answered,
        run .small exampleStored steps = some answered ∧
          answered.clients 0 = .answered (some 0) ⟨.ok, value⟩ := by
  have reached : run .small .initial [.connect 0 (smallRequest 2 9 [1] []) "", .run 0] =
      some exampleWaiting := rfl
  have parked : exampleWaiting.clients 0 = .parked ⟨0, exampleGet, false⟩ 0 := rfl
  have wakes := blockingGet_wakes .small reached parked
  have ready : exampleStoring.clients 1 = .ready ⟨1, exampleSet, false⟩ := rfl
  refine ⟨wakes.1 rfl, ?_⟩
  have outcome := wakes.2 [.connect 1 (smallRequest 1 0 [1] [5]) ""] (.run 1) []
    exampleStoring exampleStored (by decide) rfl
    ⟨1, ⟨1, exampleSet, false⟩, rfl, ready, rfl, .inl rfl, [], rfl⟩ rfl ?kept rfl ?waits
  case kept =>
    rintro ⟨first, event, second, state, split, ran, client, call, rfl, ready', -, asked⟩
    have alone : first = [] := by
      cases first with
      | nil => rfl
      | cons head tail => simp at split
    subst alone
    cases ran
    cases split
    cases ready.symm.trans ready'
    cases asked
  case waits =>
    intro expires
    rcases expires.mem with ⟨event, member, state, rfl, _⟩
    simp at member
  rcases outcome with ⟨value, finds, _⟩ | pending
  · rcases finds.mem with ⟨event, member, state, rfl, _⟩
    simp at member
  · exact pending

end Coldsnap.Coordinator
