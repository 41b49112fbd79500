import Coldsnap.Criu.Cuda

/-! # CUDA processes after a dump

A dump which fails leaves its CUDA processes running. A dump which succeeds leaves them
checkpointed, also when the processes themselves are left running. The deferred restore stops
the process group again whenever it has resumed it.
-/

namespace Coldsnap.Criu

open Go Program List Function

/-! ## Processes with a common state -/

def pids (processes : List CudaProcess) : List Nat := processes.map CudaProcess.pid

def override (changed : List Nat) (state : CudaState) (cuda : Nat → CudaState) (pid : Nat) :
    CudaState :=
  if pid ∈ changed then state else cuda pid

variable {cuda : Nat → CudaState} {pid : Nat} {changed : List Nat} {state : CudaState}
variable {plan : (Label → Option String) → Prop} {allowed : Prop} {start : World}

theorem override_of_mem (member : pid ∈ changed) : override changed state cuda pid = state :=
  if_pos member

theorem override_of_not_mem (absent : pid ∉ changed) : override changed state cuda pid = cuda pid :=
  if_neg absent

theorem update_override (changed : List Nat) (state : CudaState) (cuda : Nat → CudaState)
    (pid : Nat) : update (override changed state cuda) pid state =
      override (changed ++ [pid]) state cuda := by
  funext other
  by_cases same : other = pid
  · subst same
    rw [update_self, override_of_mem (mem_append_right _ mem_cons_self)]
  · simp [override, same]

theorem CudaState.text_injective {left right : CudaState} (same : left.text = right.text) :
    left = right := by
  cases left <;> cases right <;> first | rfl | (simp [CudaState.text] at same)

/-! ## Single actions -/

section Actions

variable {before failed : World → Prop}

abbrev Ends (plan : (Label → Option String) → Prop) (before : World → Prop) {α : Type}
    (action : Action α) (after : α → World → Prop) (failed : String → World → Prop) : Prop :=
  Triple plan (fun _ => True) before action after failed

theorem invokeCUDA_triple {recovering : Bool} {operation : CudaOperation}
    {after : String → World → Prop} (raises : ∀ world entry error, before world → plan entry →
      entry (.cuda recovering operation pid) = some error → failed world)
    (refuses : ∀ world, before world → operation.effect (world.cuda pid) = none → failed world)
    (acts : ∀ world next, before world → operation.effect (world.cuda pid) = some next →
      after next.text { world with cuda := update world.cuda pid next }) :
    Ends plan before (invokeCUDA recovering operation pid) after fun _ => failed := by
  apply Triple.recover (.operation ?_ ?_)
  · exact fun _ => .raise fun _ => id
  · exact fun world entry error starts planned raised =>
      ⟨trivial, raises world entry error starts planned raised⟩
  · intro world starts
    cases effect : operation.effect (world.cuda pid) with
    | none => exact ⟨trivial, refuses world starts effect⟩
    | some next => exact ⟨trivial, acts world next starts effect⟩

theorem requireCUDAState_triple {expected : CudaState}
    (raises : ∀ world entry error, before world → plan entry →
      entry (.cuda false .state pid) = some error → failed world)
    (differs : ∀ world, before world → world.cuda pid ≠ expected → failed world) :
    Ends plan before (requireCUDAState pid expected)
      (fun _ world => before world ∧ world.cuda pid = expected) fun _ => failed := by
  apply Triple.through fun output world => before world ∧ output = (world.cuda pid).text
  · apply invokeCUDA_triple raises
    · intro world _ refused
      cases refused
    · intro world next starts effect
      cases effect
      rw [update_eq_self]
      exact ⟨starts, rfl⟩
  intro output
  apply Triple.require
  · rintro world ⟨starts, rfl⟩ same
    exact ⟨starts, CudaState.text_injective (of_decide_eq_true same)⟩
  · rintro world ⟨starts, rfl⟩ different
    apply differs world starts
    intro same
    rw [same] at different
    exact absurd rfl (of_decide_eq_false different)

end Actions

/-! ## Stopping the processes -/

/-- The flags of the targets, and the states to which they belong. -/
structure Stage (processes locked checkpointed : List CudaProcess) (start world : World) :
    Prop where
  targets : world.targets = processes.map fun process =>
    ⟨process, decide (process ∈ locked), decide (process ∈ checkpointed)⟩
  cuda : world.cuda = override (pids checkpointed) .checkpointed
    (override (pids locked) .locked start.cuda)

/-- What a failure before the dump leaves behind. -/
def Interrupted (start world : World) : Prop :=
  ∃ processes locked checkpointed, checkpointed ⊆ locked ∧ locked ⊆ processes ∧
    (pids processes).Nodup ∧ Stage processes locked checkpointed start world

def Recovered (start world : World) : Prop :=
  ∀ pid, start.cuda pid = .running → world.cuda pid = .running

def Label.recovers : Label → Bool
  | .cuda recovering _ _ => recovering
  | _ => false

/-- Operations fail only where that is allowed, and never while a failure is undone. -/
def Tame (plan : (Label → Option String) → Prop) (allowed : Prop) : Prop :=
  ∀ entry, plan entry → ∀ label error, entry label = some error → allowed ∧ label.recovers = false

abbrev Stops (plan : (Label → Option String) → Prop) (allowed : Prop) (start : World)
    (before : World → Prop) (action : Action Unit) (after : World → Prop) : Prop :=
  Ends plan before action (fun _ => after) fun _ world => allowed ∧ Interrupted start world

section Stopping

variable {processes : List CudaProcess} {α : Type} {items seen rest : List α} {item : α}

section

variable (split : items = seen ++ item :: rest)

include split

theorem mem_of_split : item ∈ items := by
  rw [split]
  exact mem_append_right _ mem_cons_self

theorem snoc_subset_of_split : seen ++ [item] ⊆ items := by
  rw [split]
  simp

theorem subset_of_split : seen ⊆ items := by
  rw [split]
  exact subset_append_left _ _

end

variable {process : CudaProcess}

theorem pid_notMem {seen rest : List CudaProcess}
    (distinct : (pids (seen ++ process :: rest)).Nodup) : process.pid ∉ pids seen := by
  intro member
  rw [pids, map_append, map_cons, nodup_append] at distinct
  exact distinct.2.2 _ member _ mem_cons_self rfl

variable {change : CudaTargetState → CudaTargetState}

theorem retarget_targets {before after : CudaProcess → CudaTargetState}
    (listed : process ∈ processes) (distinct : (pids processes).Nodup)
    (own : change (before process) = after process)
    (others : ∀ other, other.pid ≠ process.pid → other ≠ process →
      change (before other) = after other) :
    (processes.map before).map change = processes.map after := by
  rw [map_map]
  apply map_congr_left
  intro other member
  by_cases same : other.pid = process.pid
  · rw [inj_on_of_nodup_map distinct member listed same]
    exact own
  · exact others other same fun equal => same (equal ▸ rfl)

variable (tame : Tame plan allowed)

include tame

variable (distinct : (pids processes).Nodup)

include distinct

theorem checkRunning_triple
    (calm : ¬allowed → ∀ process ∈ processes, start.cuda process.pid = .running) :
    Stops plan allowed start (Stage processes [] [] start)
      (Program.forEach (fun process => requireCUDAState process.pid .running) processes)
      fun world => Stage processes [] [] start world ∧
        ∀ process ∈ processes, start.cuda process.pid = .running := by
  have interrupted : ∀ world, Stage processes [] [] start world → Interrupted start world :=
    fun world stage =>
      ⟨processes, [], [], .refl _, nil_subset _, distinct, stage⟩
  have same : ∀ world pid, Stage processes [] [] start world → world.cuda pid = start.cuda pid :=
    fun world pid stage => by rw [stage.cuda]; rfl
  apply Triple.starting _ (.eachSeen (fun (seen : List CudaProcess) world =>
    Stage processes [] [] start world ∧ ∀ process ∈ seen, start.cuda process.pid = .running) _)
  · exact fun world stage => ⟨stage, forall_mem_nil _⟩
  intro seen process rest split
  apply Triple.ending _ (requireCUDAState_triple _ _)
  · rintro _ world ⟨⟨stage, earlier⟩, running⟩
    rw [same world _ stage] at running
    exact ⟨stage, forall_mem_append.mpr ⟨earlier, forall_mem_singleton.mpr running⟩⟩
  · exact fun world entry error holds planned raised =>
      ⟨(tame entry planned _ error raised).1, interrupted world holds.1⟩
  · intro world holds different
    refine ⟨?_, interrupted world holds.1⟩
    by_contra never
    apply different
    rw [same world _ holds.1]
    exact calm never process (mem_of_split split)

/-- A loop over the processes which brings each of them to its next state. The action for a
process is recorded in its target and then checked. -/
theorem stopEach_triple {operation : CudaOperation} {current next : CudaState}
    {states : Nat → CudaState} {change : CudaProcess → CudaTargetState → CudaTargetState}
    (stage : List CudaProcess → World → Prop) (effect : operation.effect current = some next)
    (staged : ∀ seen ⊆ processes, ∀ world, stage seen world →
      Interrupted start world ∧ world.cuda = override (pids seen) next states)
    (advances : ∀ seen, ∀ process ∈ processes, ∀ world, stage seen world →
      stage (seen ++ [process]) { world with
        cuda := override (pids (seen ++ [process])) next states
        targets := world.targets.map (change process) })
    (before : ∀ process ∈ processes, states process.pid = current) :
    Stops plan allowed start (stage [])
      (Program.forEach (fun process => Program.bind (invokeCUDA false operation process.pid)
        fun _ => Program.bind (retarget (change process)) fun _ =>
          requireCUDAState process.pid next) processes) (stage processes) := by
  apply Triple.eachSeen stage
  intro seen process rest split
  have listed := mem_of_split split
  have current : ∀ world, stage seen world → world.cuda process.pid = current := by
    intro world holds
    rw [(staged _ (subset_of_split split) world holds).2,
      override_of_not_mem (pid_notMem (split ▸ distinct)), before process listed]
  have reached := staged _ (snoc_subset_of_split split)
  apply Triple.through fun _ world => stage (seen ++ [process])
    { world with targets := world.targets.map (change process) }
  · apply invokeCUDA_triple
    · exact fun world entry error holds planned raised =>
        ⟨(tame entry planned _ error raised).1, (staged _ (subset_of_split split) world holds).1⟩
    · intro world holds refused
      rw [current world holds, effect] at refused
      cases refused
    · intro world other holds leads
      rw [current world holds, effect] at leads
      cases leads
      have advanced := advances seen process listed world holds
      rw [pids, map_append] at advanced
      rw [(staged _ (subset_of_split split) world holds).2, update_override]
      exact advanced
  intro _
  apply Triple.through fun _ => stage (seen ++ [process])
  · exact .assign (fun _ _ => trivial) fun _ => id
  intro _
  apply Triple.ending (fun _ _ holds => holds.1) (requireCUDAState_triple _ _)
  · exact fun world entry error holds planned raised =>
      ⟨(tame entry planned _ error raised).1, (reached world holds).1⟩
  · intro world holds different
    apply absurd _ different
    rw [(reached world holds).2, override_of_mem]
    exact mem_map_of_mem (mem_append_right _ mem_cons_self)

theorem lockProcesses_triple (runs : ∀ process ∈ processes, start.cuda process.pid = .running) :
    Stops plan allowed start (Stage processes [] [] start)
      (Program.forEach lockProcess processes) (Stage processes processes [] start) := by
  apply stopEach_triple tame distinct (fun seen => Stage processes seen [] start) rfl _ _ runs
  · intro locked inside world stage
    exact ⟨⟨processes, locked, [], nil_subset _, inside, distinct, stage⟩, stage.cuda⟩
  · intro seen process listed world stage
    refine ⟨(congrArg _ stage.targets).trans (retarget_targets listed distinct ?_ ?_), rfl⟩
    · simp [CudaTargetState.lock]
    · exact fun other apart different => by simp [CudaTargetState.lock, apart, different]

theorem checkpointProcesses_triple :
    Stops plan allowed start (Stage processes processes [] start)
      (Program.forEach checkpointProcess processes)
      (Stage processes processes processes start) := by
  apply stopEach_triple tame distinct (fun seen => Stage processes processes seen start)
    (rfl : CudaOperation.checkpoint.effect .locked = some .checkpointed)
  · intro checkpointed inside world stage
    exact ⟨⟨processes, processes, checkpointed, inside, .refl _, distinct, stage⟩, stage.cuda⟩
  · intro seen process listed world stage
    refine ⟨(congrArg _ stage.targets).trans (retarget_targets listed distinct ?_ ?_), rfl⟩
    · simp [CudaTargetState.checkpoint]
    · exact fun other apart different => by
        simp [CudaTargetState.checkpoint, apart, different]
  · exact fun process listed => override_of_mem (mem_map_of_mem listed)

theorem stopCUDA_triple
    (calm : ¬allowed → ∀ process ∈ processes, start.cuda process.pid = .running) :
    Stops plan allowed start (fun world => world.cuda = start.cuda) (stopCUDA processes)
      (Stage processes processes processes start) := by
  rw [stopCUDA]
  apply Triple.through fun _ => Stage processes [] [] start
  · exact .assign (fun _ _ => trivial) fun world same => ⟨by simp, same⟩
  intro _
  apply Triple.bind (checkRunning_triple tame distinct calm)
  intro _
  apply Triple.assuming
  intro runs
  apply Triple.bind (lockProcesses_triple tame distinct runs)
  intro _
  exact checkpointProcesses_triple tame distinct

end Stopping

/-! ## Recovering from a failure -/

def selectedPids (selected : CudaTargetState → Bool) (targets : List CudaTargetState) : List Nat :=
  (targets.filter selected).map fun target => target.process.pid

/-- A pass of `recoverCUDA` has changed the targets before its end, without errors. -/
def Undone (selected : CudaTargetState → Bool) (next : CudaState) (cuda : Nat → CudaState)
    (errors : List String) (seen : List CudaTargetState) (world : World) : Prop :=
  errors = [] ∧ world.cuda = override (selectedPids selected seen) next cuda

section Recovering

variable (tame : Tame plan allowed)

include tame

variable {selected : CudaTargetState → Bool}

/-- A pass of `recoverCUDA` brings the selected targets to one state, and all other processes
stay in theirs. -/
theorem undoTargets_triple {operation : CudaOperation} {current next : CudaState}
    {targets : List CudaTargetState} (effect : operation.effect current = some next)
    (distinct : (targets.map fun target => target.process.pid).Nodup)
    (states : ∀ target ∈ targets, selected target = true → cuda target.process.pid = current) :
    Ends plan (Undone selected next cuda [] [])
      (Program.foldEach (undoTarget operation selected) [] targets)
      (fun errors => Undone selected next cuda errors targets) (fun _ _ => False) := by
  apply Triple.foldSeen (Undone selected next cuda)
  intro errors seen target rest split
  by_cases chosen : selected target = true
  · have fresh : target.process.pid ∉ selectedPids selected seen := by
      intro member
      rcases mem_map.mp member with ⟨other, listed, same⟩
      rw [split, map_append, map_cons, nodup_append] at distinct
      exact distinct.2.2 _ (mem_map_of_mem (mem_filter.mp listed).1) _ mem_cons_self same
    have before : ∀ world, Undone selected next cuda errors seen world →
        world.cuda target.process.pid = current := by
      intro world holds
      rw [holds.2, override_of_not_mem fresh]
      exact states target (mem_of_split split) chosen
    rw [undoTarget, if_pos chosen]
    apply Triple.recover _ fun _ => .pure fun _ => False.elim
    apply Triple.through fun _ => Undone selected next cuda errors (seen ++ [target])
    rotate_left
    · exact fun _ => .pure fun _ => id
    apply invokeCUDA_triple
    · exact fun world entry error _ planned raised =>
        Bool.noConfusion (tame entry planned _ error raised).2
    · intro world holds refused
      rw [before world holds, effect] at refused
      cases refused
    · intro world other holds leads
      rw [before world holds, effect] at leads
      cases leads
      refine ⟨holds.1, ?_⟩
      simp [holds.2, update_override, selectedPids, chosen]
  · rw [undoTarget, if_neg chosen]
    apply Triple.pure
    intro world holds
    refine ⟨holds.1, ?_⟩
    rw [holds.2]
    simp [selectedPids, chosen]

omit tame in
theorem Stage.mem_selectedPids {processes locked checkpointed : List CudaProcess} {world : World}
    {chosen : List CudaProcess} (stage : Stage processes locked checkpointed start world)
    (inside : chosen ⊆ processes) (selects : ∀ process, selected
      ⟨process, decide (process ∈ locked), decide (process ∈ checkpointed)⟩ =
        decide (process ∈ chosen)) :
    pid ∈ selectedPids selected world.targets.reverse ↔ pid ∈ pids chosen := by
  simp only [selectedPids, pids, mem_map, mem_filter, mem_reverse, stage.targets]
  constructor
  · rintro ⟨_, ⟨⟨process, _, rfl⟩, flagged⟩, rfl⟩
    rw [selects] at flagged
    exact ⟨process, of_decide_eq_true flagged, rfl⟩
  · rintro ⟨process, listed, rfl⟩
    refine ⟨_, ⟨⟨process, inside listed, rfl⟩, ?_⟩, rfl⟩
    rw [selects]
    exact decide_eq_true listed

/-- First all memory is restored, then all processes are unlocked. -/
theorem recoverCUDA_triple :
    Ends plan (Interrupted start) recoverCUDA (fun _ => Recovered start) (fun _ _ => False) := by
  apply Triple.pinned
  rintro stopped ⟨processes, locked, checkpointed, ordered, inside, distinct, stage⟩
  have numbers : (stopped.targets.reverse.map fun target => target.process.pid).Nodup := by
    rw [stage.targets, map_reverse, nodup_reverse, map_map]
    exact distinct
  have unloaded : ∀ {pid}, pid ∈ selectedPids CudaTargetState.checkpointed
      stopped.targets.reverse ↔ pid ∈ pids checkpointed :=
    stage.mem_selectedPids (Subset.trans ordered inside) fun _ => rfl
  have held : ∀ {pid}, pid ∈ selectedPids CudaTargetState.locked stopped.targets.reverse ↔
      pid ∈ pids locked :=
    stage.mem_selectedPids inside fun _ => rfl
  have chosen : ∀ {selected : CudaTargetState → Bool} {target : CudaTargetState},
      target ∈ stopped.targets.reverse → selected target = true →
      target.process.pid ∈ selectedPids selected stopped.targets.reverse := fun listed flagged =>
    mem_map_of_mem (mem_filter.mpr ⟨listed, flagged⟩)
  have loads : ∀ target ∈ stopped.targets.reverse, target.checkpointed = true →
      stopped.cuda target.process.pid = .checkpointed := by
    intro target listed flagged
    rw [stage.cuda, override_of_mem (unloaded.mp (chosen listed flagged))]
  have restores := undoTargets_triple tame
    (rfl : CudaOperation.restore.effect .checkpointed = some .locked) numbers loads
  let restored := override
    (selectedPids CudaTargetState.checkpointed stopped.targets.reverse) .locked stopped.cuda
  have locks : ∀ target ∈ stopped.targets.reverse, target.locked = true →
      restored target.process.pid = .locked := by
    intro target listed flagged
    by_cases empty : target.process.pid ∈ pids checkpointed
    · exact override_of_mem (unloaded.mpr empty)
    · apply (override_of_not_mem (mt unloaded.mp empty)).trans
      rw [stage.cuda, override_of_not_mem empty, override_of_mem (held.mp (chosen listed flagged))]
  have unlocks := undoTargets_triple tame
    (rfl : CudaOperation.unlock.effect .locked = some .running) numbers locks
  have ended : ∀ errors world, Undone CudaTargetState.locked .running restored errors
      stopped.targets.reverse world → Recovered start world := by
    intro errors world undone pid running
    rw [undone.2]
    by_cases touched : pid ∈ pids locked
    · exact override_of_mem (held.mpr touched)
    · have empty : pid ∉ pids checkpointed := fun member =>
        touched (map_subset CudaProcess.pid ordered member)
      rw [override_of_not_mem (mt held.mp touched)]
      apply (override_of_not_mem (mt unloaded.mp empty)).trans
      rw [stage.cuda, override_of_not_mem empty, override_of_not_mem touched, running]
  rintro world schedule rfl
  refine Triple.bind restores (fun errors => ?_) world schedule ⟨rfl, rfl⟩
  rintro world schedule ⟨rfl, same⟩
  exact (Triple.ending ended unlocks) world schedule ⟨rfl, same⟩

theorem recoverAndFail_triple (error : String) :
    Ends plan (fun world => allowed ∧ Interrupted start world)
      (recoverAndFail error) (fun _ _ => False)
      (fun _ world => allowed ∧ Recovered start world) := by
  apply Triple.starting fun _ => And.symm
  apply Triple.assuming
  intro permitted
  apply Triple.bind (.failing (fun _ _ never => never.elim) (recoverCUDA_triple tame))
  exact fun _ => .raise fun _ recovered => ⟨permitted, recovered⟩

end Recovering

section Dumping

def cudaProcesses (host : Host) (value : Options) : List CudaProcess :=
  if value.cpuOnly then []
  else match discoverCUDAProcesses host value value.pid with
    | .ok processes => processes
    | .error _ => []

def Frozen (host : Host) (value : Options) (world : World) : Prop :=
  ∀ process ∈ cudaProcesses host value, world.cuda process.pid = .checkpointed

variable {host : Host}

theorem probeProcesses_sublist {numbers : List Nat} :
    ∀ {processes found}, forEach (probeProcess host) processes numbers = .ok found →
      ∃ probed, probed.Sublist numbers ∧ pids found = pids processes ++ probed := by
  induction numbers with
  | nil =>
    intro processes found done
    cases done
    exact ⟨[], Sublist.slnil, (append_nil _).symm⟩
  | cons number numbers induction =>
    intro processes found done
    rcases bind_eq_ok.mp done with ⟨next, first, others⟩
    rcases induction others with ⟨probed, part, numbered⟩
    rw [probeProcess] at first
    split at first
    · cases first
      exact ⟨probed, part.cons _, numbered⟩
    · cases first
    · split at first
      · cases first
      · cases first
        split at numbered
        · refine ⟨number :: probed, part.cons_cons _, ?_⟩
          rw [numbered]
          simp [pids]
        · exact ⟨probed, part.cons _, numbered⟩

variable {value : Options}

theorem discoverCUDAProcesses_nodup {root : Nat} {processes : List CudaProcess}
    (found : discoverCUDAProcesses host value root = .ok processes) : (pids processes).Nodup := by
  rw [discoverCUDAProcesses] at found
  split at found
  · simp only [processTreePIDs, bind_eq_ok, pure_eq_ok, check_eq_ok] at found
    rcases found with ⟨_, ⟨tree, listed, rfl⟩, probed, done, _, _, rfl⟩
    rcases probeProcesses_sublist done with ⟨numbers, part, numbered⟩
    rw [numbered]
    exact (host.nodup listed).sublist part
  · cases found
    exact nodup_singleton _

variable (tame : Tame plan allowed)

include tame

variable (calm : ¬allowed → (cudaProcesses host value ≠ [] ∨ value.cpuOnly = true) ∧
    ∀ process ∈ cudaProcesses host value, start.cuda process.pid = .running)

include calm in
theorem prepareCUDA_triple :
    Stops plan allowed start (fun world => world.cuda = start.cuda ∧ world.targets = [])
      (prepareCUDA host value) fun world => Interrupted start world ∧ Frozen host value world := by
  unfold Frozen
  have nothing : ∀ world : World, world.cuda = start.cuda ∧ world.targets = [] →
      Interrupted start world :=
    fun world same => ⟨[], [], [], .refl _, .refl _, nodup_nil, same.2, same.1⟩
  rw [prepareCUDA]
  split
  case isTrue only =>
    apply Triple.pure
    intro world same
    refine ⟨nothing world same, ?_⟩
    simp [cudaProcesses, only]
  case isFalse also =>
    apply Triple.bindExcept
    · intro error undiscovered world same
      refine ⟨?_, nothing world same⟩
      by_contra never
      rcases (calm never).1 with some | only
      · exact some (by simp [cudaProcesses, also, undiscovered])
      · exact also only
    · intro processes found
      have known : cudaProcesses host value = processes := by
        simp [cudaProcesses, also, found]
      rw [known] at calm ⊢
      have distinct := discoverCUDAProcesses_nodup found
      apply Triple.ending _ (.starting (fun _ same => same.1)
        (stopCUDA_triple tame distinct fun never => (calm never).2))
      intro _ world stage
      refine ⟨⟨processes, processes, processes, .refl _, .refl _,
        distinct, stage⟩, fun process listed => ?_⟩
      rw [stage.cuda]
      exact override_of_mem (mem_map_of_mem listed)

include calm in
theorem dump_triple :
    Ends plan (fun world => world = start) (dump host value)
      (fun _ world => world.dumped = some world.cuda ∧ Frozen host value world)
      (fun _ world => allowed ∧ Recovered start world) := by
  apply Triple.through fun _ world => world.cuda = start.cuda ∧ world.targets = []
  · apply Triple.operation
    · rintro world entry error rfl planned raised
      exact ⟨trivial, (tame entry planned _ error raised).1, fun _ => id⟩
    · rintro world rfl
      exact ⟨trivial, rfl, rfl⟩
  intro _
  apply Triple.through fun _ world => Interrupted start world ∧ Frozen host value world
  · apply Triple.recover (prepareCUDA_triple tame calm)
    exact fun error => .ending (fun _ _ never => never.elim) (recoverAndFail_triple tame error)
  intro _
  apply Triple.recover _ fun error => .ending (fun _ _ never => never.elim)
    (recoverAndFail_triple tame error)
  apply Triple.operation
  · exact fun world entry error holds planned raised =>
      ⟨trivial, (tame entry planned _ error raised).1, holds.1⟩
  · exact fun world holds => ⟨trivial, rfl, holds.2⟩

end Dumping

/-! ## Stopping the group again -/

/-- The signals which were sent and those which arrived. -/
def Sent (past : List Signal × List Signal) (world : World) : Prop :=
  (world.signalled, world.delivered) = past

abbrev Quietly (plan : (Label → Option String) → Prop) (past : List Signal × List Signal)
    {α : Type} (action : Action α) : Prop :=
  Ends plan (Sent past) action (fun _ => Sent past) fun _ => Sent past

section Quietness

variable {past : List Signal × List Signal}

theorem invokeCUDA_quiet (recovering : Bool) (operation : CudaOperation) (pid : Nat) :
    Quietly plan past (invokeCUDA recovering operation pid) :=
  invokeCUDA_triple (fun _ _ _ quiet _ _ => quiet) (fun _ quiet _ => quiet) fun _ _ quiet _ => quiet

theorem requireCUDAState_quiet (pid : Nat) (expected : CudaState) :
    Quietly plan past (requireCUDAState pid expected) :=
  .ending (fun _ _ holds => holds.1)
    (requireCUDAState_triple (fun _ _ _ quiet _ _ => quiet) fun _ quiet _ => quiet)

theorem restoreProcess_quiet (process : CudaProcess) :
    Quietly plan past (restoreProcess process) := by
  apply Triple.bind (requireCUDAState_quiet process.pid .checkpointed)
  intro _
  apply Triple.bind (invokeCUDA_quiet false .restore process.pid)
  intro _
  apply Triple.bind (requireCUDAState_quiet process.pid .locked)
  intro _
  apply Triple.bind (invokeCUDA_quiet false .unlock process.pid)
  intro _
  exact requireCUDAState_quiet process.pid .running

theorem forEach_quiet {body : CudaProcess → Action Unit}
    (quiet : ∀ process, Quietly plan past (body process)) (processes : List CudaProcess) :
    Quietly plan past (Program.forEach body processes) :=
  .forEach (fun _ => Sent past) (fun process _ => quiet process) processes

theorem restoreCUDA_quiet (host : Host) (value : Options) (pid : Nat) :
    Quietly plan past (restoreCUDA host value pid) := by
  have each : ∀ operation : CudaOperation, ∀ process : CudaProcess,
      Quietly plan past
        (Program.bind (invokeCUDA false operation process.pid) fun _ => Program.pure ()) :=
    fun operation process =>
    .bind (invokeCUDA_quiet false operation process.pid) fun _ =>
      .pure fun _ => id
  rw [restoreCUDA]
  split
  · exact .pure fun _ => id
  · apply Triple.bindExcept (fun _ _ _ => id)
    intro processes _
    apply Triple.bind (forEach_quiet (fun process => requireCUDAState_quiet _ _) processes)
    intro _
    apply Triple.bind (forEach_quiet (each .restore) processes)
    intro _
    apply Triple.bind (forEach_quiet (fun process => requireCUDAState_quiet _ _) processes)
    intro _
    apply Triple.bind (forEach_quiet (each .unlock) processes)
    intro _
    exact forEach_quiet (fun process => requireCUDAState_quiet _ _) processes

theorem kill_triple (signal : Signal) {sent arrived : List Signal} :
    Ends plan (Sent (sent, arrived)) (kill signal)
      (fun _ => Sent (sent ++ [signal], arrived ++ [signal]))
      fun _ => Sent (sent ++ [signal], arrived) := by
  rw [kill]
  apply Triple.through fun _ => Sent (sent ++ [signal], arrived)
  · apply Triple.assign (fun _ _ => trivial)
    rintro world ⟨⟩
    rfl
  intro _
  apply Triple.operation (fun _ _ _ past _ _ => ⟨trivial, past⟩)
  intro world past
  simp_all [Sent]

theorem attempt_triple {action : Action Unit} {before after failed : World → Prop}
    (triple : Ends plan before action (fun _ => after) (fun _ => failed)) :
    Ends plan before (attempt action)
      (fun errors world => if errors = [] then after world else failed world)
      (fun _ _ => False) := by
  apply Triple.recover
  · apply Triple.bind triple
    intro _
    apply Triple.pure
    intro world holds
    rwa [if_pos rfl]
  · intro error
    apply Triple.pure
    intro world fails
    rwa [if_neg (cons_ne_nil error [])]

end Quietness

variable (host : Host) (value : Options)

variable (start)

theorem restoreDeferredCUDA_triple {sent arrived : List Signal} :
    Ends (fun _ => True) (Sent (sent, arrived)) (restoreDeferredCUDA host value)
      (fun _ => Sent (sent ++ [.continue, .stop], arrived ++ [.continue, .stop]))
      (fun _ world => world.delivered = arrived ∨
        world.signalled = sent ++ [.continue, .stop]) := by
  have resumed : ∀ signals : List Signal, signals ++ [.continue, .stop] =
      signals ++ [.continue] ++ [.stop] := by simp
  rw [resumed, resumed]
  apply Triple.bindExcept fun _ _ _ past => .inl (congrArg Prod.snd past)
  intro processes _
  apply Triple.through fun _ => Sent (sent ++ [.continue], arrived ++ [.continue])
  · exact .recover (kill_triple .continue) fun _ =>
      .raise fun _ past => .inl (congrArg Prod.snd past)
  intro _
  have restores : Quietly (fun _ => True) (sent ++ [.continue], arrived ++ [.continue])
      (if processes ≠ [] then restoreCapturedCUDA processes
        else restoreCUDA host value value.pid) := by
    split
    · exact forEach_quiet restoreProcess_quiet processes.reverse
    · exact restoreCUDA_quiet host value value.pid
  apply Triple.bind (.failing (fun _ _ never => never.elim) (attempt_triple restores))
  intro restoreErrors
  simp only [ite_self]
  apply Triple.bind (.failing (fun _ _ never => never.elim)
    (attempt_triple (.recover (kill_triple .stop) fun _ => .raise fun _ => id)))
  intro stopErrors
  apply Triple.require
  · intro world either clean
    rw [(append_eq_nil_iff.mp (of_decide_eq_true clean)).2, if_pos rfl] at either
    exact either
  · intro world either _
    split at either <;> exact .inr (congrArg Prod.fst either)

structure Restopped (start : World) (run : Run Label World String Unit) : Prop where
  sent : run.state.delivered ≠ start.delivered →
    run.state.signalled = start.signalled ++ [.continue, .stop]
  stopped : run.result = .ok () → run.state.delivered = start.delivered ++ [.continue, .stop]

theorem restoreDeferredCUDA_restopped (schedule : List (Label → Option String)) :
    Restopped start (restoreDeferredCUDA host value start schedule) := by
  have outcome := (restoreDeferredCUDA_triple host value start schedule rfl
    fun _ _ => trivial).2.2
  cases returned : (restoreDeferredCUDA host value start schedule).result with
  | ok _ =>
    rw [returned] at outcome
    exact ⟨fun _ => congrArg Prod.fst outcome, fun _ => congrArg Prod.snd outcome⟩
  | error _ =>
    rw [returned] at outcome
    constructor
    · intro resumed
      rcases outcome with unsent | sent
      · exact absurd unsent resumed
      · exact sent
    · intro never
      cases returned.symm.trans never

/-! ## The outcome of a dump -/

def Recoverable (schedule : List (Label → Option String)) : Prop :=
  ∀ entry ∈ schedule, ∀ operation pid, entry (.cuda true operation pid) = none

/-- What is expected of a dump: the processes which ran are running after a failure and when
they are to be left running, and were checkpointed before a dump which ends them. -/
structure Dumped (host : Host) (value : Options) (start : World)
    (run : Run Label World String Unit) : Prop where
  recovered : ∀ error, run.result = .error error → ∀ process ∈ cudaProcesses host value,
    start.cuda process.pid = .running → run.state.cuda process.pid = .running
  left : run.result = .ok () → value.leaveRunning = true →
    ∀ process ∈ cudaProcesses host value, run.state.cuda process.pid = .running
  saved : run.result = .ok () → value.leaveRunning = false →
    ∃ states, run.state.dumped = some states ∧
      ∀ process ∈ cudaProcesses host value, states process.pid = .checkpointed

/-- The outcome of a dump whose recovery does not fail. -/
theorem dump_outcome {schedule : List (Label → Option String)}
    (recoverable : Recoverable schedule) {run : Run Label World String Unit}
    (ran : dump host value start schedule = run) :
    (∀ error, run.result = .error error → Recovered start run.state) ∧
    (run.result = .ok () → run.state.dumped = some run.state.cuda ∧
      Frozen host value run.state) := by
  have tame : Tame (fun entry => ∀ operation pid, entry (.cuda true operation pid) = none)
      True := by
    intro entry silent label error raised
    refine ⟨trivial, ?_⟩
    rcases label with _ | ⟨recovering, operation, pid⟩ | _ | _
    · rfl
    · cases recovering
      · rfl
      · cases raised.symm.trans (silent operation pid)
    · rfl
    · rfl
  have triple := @dump_triple _ _ start host value tame fun never => absurd trivial never
  have outcome := (triple start schedule rfl recoverable).2.2
  rw [ran] at outcome
  cases returned : run.result with
  | ok _ =>
    rw [returned] at outcome
    exact ⟨nofun, fun _ => outcome⟩
  | error _ =>
    rw [returned] at outcome
    exact ⟨fun _ _ => outcome.2, nofun⟩

/-- A dump left to itself is successful when all its processes run. -/
theorem dump_succeeds (some : cudaProcesses host value ≠ [])
    (runs : ∀ process ∈ cudaProcesses host value, start.cuda process.pid = .running) :
    (dump host value start []).result = .ok () := by
  have tame : Tame (fun _ => False) False := fun _ never => never.elim
  have triple := dump_triple tame fun _ => ⟨.inl some, runs⟩
  rcases (Triple.failing (fun _ _ fails => fails.1) triple).returns rfl with ⟨_, returned, _⟩
  exact returned

/-- The dump leaves CUDA processes behind as expected exactly when it is not to leave any of
them running, since nothing restores their memory after a successful dump. -/
theorem dump_settles_iff (host : Host) (value : Options) :
    (∀ start schedule, Recoverable schedule →
      Dumped host value start (dump host value start schedule) ∧
      Restopped start (restoreDeferredCUDA host value start schedule)) ↔
    (value.leaveRunning = true → cudaProcesses host value = []) := by
  constructor
  · intro settles leave
    by_contra some
    let start : World := ⟨fun _ => .running, [], none, [], []⟩
    have silent : Recoverable [] := nofun
    have returned := dump_succeeds start host value some fun _ _ => rfl
    rcases exists_mem_of_ne_nil _ some with ⟨process, listed⟩
    have running := (settles start [] silent).1.left returned leave process listed
    rw [((dump_outcome start host value silent rfl).2 returned).2 process listed] at running
    cases running
  · intro none start schedule recoverable
    rcases dump_outcome start host value recoverable rfl with ⟨fails, returns⟩
    refine ⟨⟨?_, ?_, ?_⟩, restoreDeferredCUDA_restopped start host value schedule⟩
    · exact fun error failed process _ => fails error failed _
    · intro _ leave process listed
      rw [none leave] at listed
      cases listed
    · exact fun returned _ => ⟨_, returns returned⟩

theorem childless_nodup {root : Nat} {found : List Nat}
    (listed : (.ok [] : Result (List Nat)) = .ok found) : (root :: found).Nodup := by
  cases listed
  exact nodup_singleton root

def childless : Host where
  descendants _ := .ok []
  nodup := childless_nodup
  probe _ := .exited
  inventory _ := .ok []

/-- A dump of one process which is to be left running ends with its memory still on the host. -/
theorem dump_left_checkpointed :
    let value : Options := ⟨1, false, false, true, ""⟩
    let start : World := ⟨fun _ => .running, [], none, [], []⟩
    let run := dump childless value start []
    cudaProcesses childless value = [⟨1, 0⟩] ∧ run.result = .ok () ∧
      run.state.cuda 1 = .checkpointed := by
  decide

end Coldsnap.Criu
