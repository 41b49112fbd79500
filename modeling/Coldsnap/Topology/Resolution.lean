import Coldsnap.Topology.Graph
import Mathlib.Data.List.Dedup

/-! # How a worker finds itself

`worker_id`, `global_rank` and `world_group` of `integrations/core/coldsnap_core/topology.py`,
run in a unit with the graph it was told. The identifier and the rank of a worker are always
found. Its world group is found if no other one has a worker of the unit at the same rank.
-/

namespace Coldsnap.Topology

open Go Python Sha256 List

/-! ## The Python functions -/

/-- The variables which are read, with the graph decoded. -/
structure Environment where
  executionGraph : Option UnitGraph
  localRank : Option String
  rank : Option String
  coldsnapRank : Option String
  coldsnapExpectedRank : Option String
deriving DecidableEq, Repr

def executionGraph (environment : Environment) (required : Bool) : Checked (Option UnitGraph) :=
  match environment.executionGraph with
  | none =>
    if required then .error (runtimeError "COLDSNAP_EXECUTION_GRAPH is required") else .ok none
  | some graph => do
    Checked.require (idPattern graph.unit && graph.byProcessSlot ≠ [])
      (runtimeError "COLDSNAP_EXECUTION_GRAPH has an invalid structure")
    Checked.require (graph.byProcessSlot.all fun entry => idPattern entry.2)
      (runtimeError "COLDSNAP_EXECUTION_GRAPH contains an invalid worker")
    return some graph

def workerId (graph : UnitGraph) (environment : Environment) : Checked String :=
  match environment.localRank.bind (lookup · graph.byProcessSlot) with
  | some worker => .ok worker
  | none =>
    match graph.byProcessSlot with
    | [(_, worker)] => .ok worker
    | _ =>
      let found := graph.groups.filterMap fun entry =>
        if isWorldKind entry.2.kind then environment.rank.bind (lookup · entry.2.ranks)
        else none
      match found.dedup with
      | [worker] => do
        Checked.require (idPattern worker) (runtimeError "ColdSnap worker identity is invalid")
        return worker
      | _ =>
        .error (runtimeError "cannot resolve ColdSnap worker from local or group rank")

section Parsing

variable [Builtins]

/-- The rank in the first of three variables that is set. -/
def explicitRank (environment : Environment) : Checked (Option Int) :=
  let candidates := [("RANK", environment.rank), ("COLDSNAP_RANK", environment.coldsnapRank),
    ("COLDSNAP_EXPECTED_RANK", environment.coldsnapExpectedRank)]
  match candidates.findSome? fun entry => entry.2.map fun raw => (entry.1, raw) with
  | none => .ok none
  | some (name, raw) =>
    match Builtins.parseInt raw with
    | none => .error (runtimeError s!"{name} is not a valid rank")
    | some rank =>
      if rank < 0 then .error (runtimeError s!"{name} is not a valid rank")
      else .ok (some rank)

def groupRank (text : String) : Checked Int :=
  match Builtins.parseInt text with
  | none => .error (runtimeError "ColdSnap world group contains an invalid rank")
  | some rank => do
    Checked.require (0 ≤ rank && toString rank = text)
      (runtimeError "ColdSnap world group contains an invalid rank")
    return rank

def UnitGraph.worldRanks (graph : UnitGraph) (worker : String) : List String :=
  (graph.groups.filter fun entry => isWorldKind entry.2.kind).flatMap fun entry =>
    (entry.2.ranks.filter fun member => member.2 = worker).map Prod.fst

def topologyRank (graph : UnitGraph) (environment : Environment) : Checked (Option Int) := do
  let worker ← workerId graph environment
  let found ← mapEach groupRank (graph.worldRanks worker)
  match found.dedup with
  | [] => return none
  | [rank] => return some rank
  | _ =>
    .error (runtimeError "ColdSnap worker has conflicting global ranks in world groups")

def globalRank (environment : Environment) (required : Bool) : Checked (Option Int) := do
  let explicit ← explicitRank environment
  let graph ← executionGraph environment false
  let topology ← match graph with
    | none => .ok none
    | some graph => topologyRank graph environment
  match explicit, topology with
  | some rank, some found =>
    if rank ≠ found then
      .error (runtimeError "explicit global rank disagrees with execution topology")
    else return some found
  | none, some found => return some found
  | some rank, none => return some rank
  | none, none =>
    if required then .error (runtimeError "cannot resolve ColdSnap global rank")
    else return none

end Parsing

def worldGroups (rank : Int) (graph : UnitGraph) : List (String × GroupRanks) :=
  graph.groups.filter fun entry =>
    isWorldKind entry.2.kind && entry.2.ranks.any (·.1 = toString rank)

def worldGroup (rank : Int) (graph : UnitGraph) : Checked (String × GroupRanks) :=
  match worldGroups rank graph with
  | [entry] => .ok entry
  | _ => .error (runtimeError "runtime rank does not identify exactly one world group")

def ownWorkerId (environment : Environment) : Checked String := do
  match ← executionGraph environment true with
  | some graph => workerId graph environment
  | none => .error ⟨.assertionError, ""⟩

def ownWorldGroup (rank : Int) (environment : Environment) : Checked (String × GroupRanks) := do
  match ← executionGraph environment true with
  | some graph => worldGroup rank graph
  | none => .error ⟨.assertionError, ""⟩

/-! ## What the validation guarantees -/

structure ExecutionGraph.Sound (graph : ExecutionGraph) : Prop where
  ids : (graph.workers.map Worker.id).Nodup
  slots : (graph.workers.map fun worker => (worker.unit, worker.processSlot)).Nodup
  named : ∀ worker ∈ graph.workers, idPattern worker.id = true ∧ idPattern worker.unit = true ∧
    0 ≤ worker.processSlot
  groups : (graph.groups.map ProcessGroup.id).Nodup
  members : ∀ group ∈ graph.groups, group.members.Nodup
  world : ∀ worker ∈ graph.workers,
    ((graph.groups.filter fun group => isWorldKind group.kind).flatMap
      ProcessGroup.members).count worker.id = 1

namespace ExecutionGraph

theorem validateUnit_ok {known next : List String} {unit : LaunchUnit}
    (valid : validateUnit known unit = .ok next) : idPattern unit.id = true := by
  simp only [validateUnit, bind_eq_ok, check_eq_ok, Bool.and_eq_true] at valid
  rcases valid with ⟨_, both, _⟩
  exact both.1

variable {services : List ServiceDomain} {units : List LaunchUnit}

theorem validateWorker_ok {state next : WorkerState} {worker : Worker}
    (valid : validateWorker units services state worker = .ok next) :
    (∃ unit ∈ units, unit.id = worker.unit) ∧ idPattern worker.id = true ∧
      0 ≤ worker.processSlot ∧
      (worker.id ∉ state.ids ∧ next.ids = worker.id :: state.ids) ∧
      ((worker.unit, worker.processSlot) ∉ state.slots ∧
        next.slots = (worker.unit, worker.processSlot) :: state.slots) := by
  rw [validateWorker] at valid
  split at valid
  · cases valid
  · rename_i unit found
    simp only [bind_eq_ok, check_eq_ok, pure_eq_ok, Bool.and_eq_true, decide_eq_true_eq] at valid
    rcases valid with ⟨_, ⟨⟨⟨⟨pattern, fresh⟩, _⟩, slot⟩, _⟩, _, unused, claimed, _, equal⟩
    have same : unit.id = worker.unit := by
      have holds := find?_some found
      exact of_decide_eq_true holds
    rw [← equal]
    exact ⟨⟨unit, mem_of_find?_eq_some found, same⟩, pattern, slot, ⟨fresh, rfl⟩, unused, rfl⟩

variable {workers : List Worker} {group : ProcessGroup}

theorem validateMember_ok {state next : List String × GroupState} {id : String}
    (valid : validateMember workers group state id = .ok next) :
    (id ∉ state.1 ∧ next.1 = id :: state.1) ∧ next.2.ids = state.2.ids ∧
      next.2.world = state.2.world ++ if isWorldKind group.kind then [id] else [] := by
  simp only [validateMember, bind_eq_ok, check_eq_ok, pure_eq_ok, Bool.and_eq_true,
    decide_eq_true_eq] at valid
  rcases valid with ⟨_, both, equal⟩
  rw [← equal]
  exact ⟨⟨both.2, rfl⟩, rfl, rfl⟩

def worldMembers (group : ProcessGroup) : List String :=
  if isWorldKind group.kind then group.members else []

theorem validateGroup_ok {state next : GroupState}
    (valid : validateGroup workers services state group = .ok next) :
    group.members.Nodup ∧ (group.id ∉ state.ids ∧ next.ids = group.id :: state.ids) ∧
      next.world = state.world ++ worldMembers group := by
  simp only [validateGroup, bind_eq_ok, check_eq_ok, pure_eq_ok, Bool.and_eq_true,
    decide_eq_true_eq] at valid
  rcases valid with ⟨_, ⟨⟨_, fresh⟩, _⟩, _, _, final, looped, equal⟩
  have distinct := (forEach_fresh (fun member : String => member) Prod.fst
    (fun valid => (validateMember_ok valid).1) looped).1
  have collected := forEach_collects (fun state : List String × GroupState => state.2.world)
    (fun id => if isWorldKind group.kind then [id] else [])
    (fun valid => (validateMember_ok valid).2.2) looped
  have kept : ∀ {known : List String × GroupState} {id : String}
      {later : List String × GroupState}, id ∈ group.members →
      known.2.ids = group.id :: state.ids → validateMember workers group known id = .ok later →
      later.2.ids = group.id :: state.ids := by
    intro known id later _ same valid
    rw [(validateMember_ok valid).2.1, same]
  have ids : final.2.ids = group.id :: state.ids := forEach_keeps kept rfl looped
  rw [map_id'] at distinct
  rw [← equal]
  refine ⟨distinct, ⟨fresh, ids⟩, ?_⟩
  rw [collected, worldMembers]
  cases isWorldKind group.kind <;> simp

theorem worldMembers_flatMap (groups : List ProcessGroup) :
    groups.flatMap worldMembers =
      (groups.filter fun group => isWorldKind group.kind).flatMap ProcessGroup.members := by
  induction groups with
  | nil => rfl
  | cons group groups induction =>
    rw [flatMap_cons, induction, filter_cons, worldMembers]
    cases isWorldKind group.kind with
    | true => rfl
    | false => rfl

variable [PayloadFormat]

theorem sound_of_validate {graph : ExecutionGraph} (valid : graph.validate units = .ok ()) :
    graph.Sound := by
  simp only [validate, bind_eq_ok] at valid
  rcases valid with ⟨_, _, _, unitsValid, _, _, placed, placing, _, _, _, _, _, _, grouping,
    grouped, _, counted, _⟩
  have unitNamed := forEach_checks (fun unit : LaunchUnit => idPattern unit.id = true)
    (validateUnit_ok) unitsValid
  have workerChecked := forEach_checks (fun worker : Worker =>
      (∃ unit ∈ units, unit.id = worker.unit) ∧ idPattern worker.id = true ∧ 0 ≤ worker.processSlot)
    (fun valid => ⟨(validateWorker_ok valid).1, (validateWorker_ok valid).2.1,
      (validateWorker_ok valid).2.2.1⟩) placing
  have collected := forEach_collects GroupState.world worldMembers
    (fun valid => (validateGroup_ok valid).2.2) grouped
  have once := forEach_checks (fun worker : Worker => grouping.world.count worker.id = 1)
    (fun valid => by
      simp only [bind_eq_ok, check_eq_ok, decide_eq_true_eq] at valid
      rcases valid with ⟨_, _, count⟩
      exact count) counted
  constructor
  · exact (forEach_fresh Worker.id WorkerState.ids
      (fun valid => (validateWorker_ok valid).2.2.2.1) placing).1
  · exact (forEach_fresh (fun worker : Worker => (worker.unit, worker.processSlot))
      WorkerState.slots (fun valid => (validateWorker_ok valid).2.2.2.2) placing).1
  · intro worker member
    rcases workerChecked worker member with ⟨⟨unit, known, same⟩, pattern, slot⟩
    exact ⟨pattern, same ▸ unitNamed unit known, slot⟩
  · exact (forEach_fresh ProcessGroup.id GroupState.ids
      (fun valid => (validateGroup_ok valid).2.1) grouped).1
  · exact forEach_checks (fun group : ProcessGroup => group.members.Nodup)
      (fun valid => (validateGroup_ok valid).1) grouped
  · intro worker member
    have count := once worker member
    rw [collected] at count
    rw [← worldMembers_flatMap]
    exact count

end ExecutionGraph

variable {launch : LaunchSpec} {graph : ExecutionGraph} {worker : Worker}

theorem LaunchSpec.sound [PayloadFormat] (valid : launch.validate = .ok ()) :
    launch.execution.Sound := by
  simp only [LaunchSpec.validate, bind_eq_ok] at valid
  rcases valid with ⟨_, _, _, _, _, _, _, _, graph⟩
  exact ExecutionGraph.sound_of_validate graph

/-! ## Positions -/

structure ExecutionGraph.Position (graph : ExecutionGraph) (worker : Worker)
    (group : ProcessGroup) (rank : Nat) : Prop where
  listed : group ∈ graph.groups
  world : isWorldKind group.kind = true
  found : group.members[rank]? = some worker.id

namespace ExecutionGraph.Sound

theorem position (sound : graph.Sound) (member : worker ∈ graph.workers) :
    ∃ group rank, graph.Position worker group rank ∧
      ∀ other otherRank, graph.Position worker other otherRank →
        other = group ∧ otherRank = rank := by
  have count := sound.world worker member
  have inside : worker.id ∈ (graph.groups.filter fun group => isWorldKind group.kind).flatMap
      ProcessGroup.members := by
    rw [← count_pos_iff, count]
    exact Nat.one_pos
  rcases mem_flatMap.mp inside with ⟨group, kept, within⟩
  rcases mem_filter.mp kept with ⟨listed, world⟩
  rcases mem_iff_getElem?.mp within with ⟨rank, found⟩
  refine ⟨group, rank, ⟨listed, world, found⟩, ?_⟩
  intro other otherRank position
  have same : other = group := by
    by_contra different
    have otherKept : other ∈ graph.groups.filter fun group => isWorldKind group.kind :=
      mem_filter.mpr ⟨position.listed, position.world⟩
    have otherWithin := mem_of_getElem? position.found
    rcases append_of_mem kept with ⟨before, after, split⟩
    rw [split, flatMap_append, flatMap_cons, count_append, count_append] at count
    have here := count_pos_iff.mpr within
    rw [split, mem_append, mem_cons] at otherKept
    rcases otherKept with earlier | equal | later
    · have there := count_pos_iff.mpr (mem_flatMap.mpr ⟨other, earlier, otherWithin⟩)
      omega
    · exact different equal
    · have there := count_pos_iff.mpr (mem_flatMap.mpr ⟨other, later, otherWithin⟩)
      omega
  refine ⟨same, ?_⟩
  have again := position.found
  rw [same, ← found] at again
  have bound : otherRank < group.members.length := by
    rw [found] at again
    exact (List.getElem?_eq_some_iff.mp again).1
  exact (getElem?_inj bound (sound.members group listed)).mp again

end ExecutionGraph.Sound

/-! ## What a unit is told -/

theorem mem_marshalled {α : Type} {entries : List (String × α)} {entry : String × α} :
    entry ∈ marshalled entries ↔ entry ∈ entries :=
  (sortedOn_perm Prod.fst entries).mem_iff

theorem nodup_marshalled {α : Type} {entries : List (String × α)}
    (distinct : (entries.map Prod.fst).Nodup) : ((marshalled entries).map Prod.fst).Nodup :=
  ((sortedOn_perm Prod.fst entries).map Prod.fst).nodup_iff.mpr distinct

/-- The identifier is that of a worker of the unit. -/
def ExecutionGraph.Houses (graph : ExecutionGraph) (unit id : String) : Prop :=
  ∃ worker ∈ graph.workers, worker.unit = unit ∧ worker.id = id

variable {unit : String}

theorem mem_unitWorkers :
    worker ∈ graph.unitWorkers unit ↔ worker ∈ graph.workers ∧ worker.unit = unit := by
  rw [ExecutionGraph.unitWorkers, (sortedOn_perm _ _).mem_iff, mem_filter, decide_eq_true_eq]

variable {id : String}

theorem mem_unitIds : id ∈ (graph.unitWorkers unit).map Worker.id ↔ graph.Houses unit id := by
  simp only [mem_map, mem_unitWorkers, and_assoc]
  rfl

variable {group : ProcessGroup} {ids : List String}

theorem mem_ranksOf {rank : Nat} :
    (rank, id) ∈ group.ranksOf ids ↔ group.members[rank]? = some id ∧ id ∈ ids := by
  simp [ProcessGroup.ranksOf, mem_zipIdx_iff_getElem?]

variable {entry : String × GroupRanks}

theorem told_iff :
    group.told ids = some entry ↔
      (∃ (rank : Nat) (id : String), group.members[rank]? = some id ∧ id ∈ ids) ∧
      entry = (group.id, ⟨group.kind, group.members.length,
        marshalled ((group.ranksOf ids).map fun entry => (toString entry.1, entry.2))⟩) := by
  have empty : group.ranksOf ids = [] ↔
      ¬∃ (rank : Nat) (id : String), group.members[rank]? = some id ∧ id ∈ ids := by
    simp [eq_nil_iff_forall_not_mem, mem_ranksOf]
  rw [ProcessGroup.told, Option.ite_none_left_eq_some, empty, not_not, Option.some.injEq]
  exact and_congr_right fun _ => eq_comm

def ExecutionGraph.toldRanks (graph : ExecutionGraph) (unit : String) (group : ProcessGroup) :
    GroupRanks where
  kind := group.kind
  size := group.members.length
  ranks := marshalled ((group.ranksOf ((graph.unitWorkers unit).map Worker.id)).map
    fun entry => (toString entry.1, entry.2))

theorem mem_toldRanks {text : String} :
    (text, id) ∈ (graph.toldRanks unit group).ranks ↔
      ∃ rank : Nat, text = toString rank ∧ group.members[rank]? = some id ∧
        graph.Houses unit id := by
  rw [ExecutionGraph.toldRanks, mem_marshalled, mem_map]
  simp only [Prod.exists, Prod.mk.injEq, mem_ranksOf, mem_unitIds]
  constructor
  · rintro ⟨rank, _, found, same, rfl⟩
    exact ⟨rank, same.symm, found⟩
  · rintro ⟨rank, same, found⟩
    exact ⟨rank, id, found, same.symm, rfl⟩

/-- What the graph of a unit says about a sound launch. -/
structure Describes (graph : ExecutionGraph) (unit : String) (told : UnitGraph) : Prop where
  unit_eq : told.unit = unit
  slotKeys : (told.byProcessSlot.map Prod.fst).Nodup
  slots : ∀ text id, (text, id) ∈ told.byProcessSlot ↔
    ∃ worker ∈ graph.workers, worker.unit = unit ∧ text = toString worker.processSlot ∧
      id = worker.id
  groupKeys : (told.groups.map Prod.fst).Nodup
  groups : ∀ entry, entry ∈ told.groups ↔
    ∃ group ∈ graph.groups, (∃ (rank : Nat) (id : String), group.members[rank]? = some id ∧
      graph.Houses unit id) ∧ entry = (group.id, graph.toldRanks unit group)

theorem unitSlots_nodup (sound : graph.Sound) (unit : String) :
    ((graph.unitWorkers unit).map Worker.processSlot).Nodup := by
  rw [ExecutionGraph.unitWorkers, ((sortedOn_perm _ _).map Worker.processSlot).nodup_iff]
  have distinct := Nodup.of_map _ sound.slots
  apply Nodup.map_on
  · intro first firstMember second secondMember same
    rw [mem_filter, decide_eq_true_eq] at firstMember secondMember
    apply inj_on_of_nodup_map sound.slots firstMember.1 secondMember.1
    rw [firstMember.2, secondMember.2, same]
  · exact distinct.filter _

theorem told_names (ids : List String) (groups : List ProcessGroup) :
    Sublist ((groups.filterMap (·.told ids)).map Prod.fst) (groups.map ProcessGroup.id) := by
  induction groups with
  | nil => exact Sublist.refl _
  | cons group groups induction =>
    rw [filterMap_cons, map_cons]
    cases part : group.told ids with
    | none => exact induction.cons _
    | some entry =>
      rw [(told_iff.mp part).2]
      exact induction.cons_cons _

theorem describes_of_told (sound : launch.execution.Sound) {told : UnitGraph}
    (computed : workerMapJSON launch unit = .ok told) : Describes launch.execution unit told := by
  simp only [workerMapJSON, bind_eq_ok, pure_eq_ok] at computed
  rcases computed with ⟨_, _, equal⟩
  have slots := unitSlots_nodup sound unit
  have slotMap : mapOf ((launch.execution.unitWorkers unit).map fun worker =>
      (worker.processSlot, worker.id)) =
      (launch.execution.unitWorkers unit).map fun worker => (worker.processSlot, worker.id) := by
    apply mapOf_nodup
    rw [map_map]
    exact slots
  have groupKeys : ((launch.execution.groups.filterMap
      (·.told ((launch.execution.unitWorkers unit).map Worker.id))).map Prod.fst).Nodup := by
    exact (told_names _ _).nodup sound.groups
  rw [← equal, slotMap, mapOf_nodup groupKeys]
  constructor
  · rfl
  · apply nodup_marshalled
    have printed : (((launch.execution.unitWorkers unit).map Worker.processSlot).map
        toString).Nodup := slots.map fun _ _ => toString_int_inj
    rw [map_map] at printed
    rw [map_map, map_map]
    exact printed
  · intro text id
    rw [mem_marshalled, map_map, mem_map]
    simp [mem_unitWorkers, and_assoc, eq_comm]
  · exact nodup_marshalled groupKeys
  · intro entry
    rw [mem_marshalled, mem_filterMap]
    simp only [told_iff, mem_unitIds]
    rfl

theorem workerMapJSON_ok (member : worker ∈ launch.execution.workers) :
    ∃ told, workerMapJSON launch worker.unit = .ok told := by
  have present := ne_nil_of_mem (mem_unitWorkers.mpr ⟨member, rfl⟩)
  have checked : ∀ message, check (decide (launch.execution.unitWorkers worker.unit ≠ [])) message =
      .ok () := fun _ => check_eq_ok.mpr (decide_eq_true present)
  simp only [workerMapJSON, bind_eq_ok, pure_eq_ok]
  exact ⟨_, (), checked _, rfl⟩

/-! ## Resolution -/

section Resolving

variable {told : UnitGraph} {environment : Environment} {rank : Nat} (sound : graph.Sound)
  (member : worker ∈ graph.workers) (describes : Describes graph worker.unit told)
  (given : environment.executionGraph = some told)
  (slot : environment.localRank = some (toString worker.processSlot))
  (position : graph.Position worker group rank)

include member describes in
theorem slot_told : (toString worker.processSlot, worker.id) ∈ told.byProcessSlot :=
  (describes.slots _ _).mpr ⟨worker, member, rfl, rfl, rfl⟩

include sound member describes given in
theorem executionGraph_ok (required : Bool) :
    executionGraph environment required = .ok (some told) := by
  have unit : idPattern told.unit = true := by
    rw [describes.unit_eq]
    exact (sound.named worker member).2.1
  have names : (told.byProcessSlot.all fun entry => idPattern entry.2) = true := by
    rw [all_eq_true]
    intro entry inside
    rcases (describes.slots entry.1 entry.2).mp inside with ⟨other, listed, _, _, same⟩
    rw [same]
    exact (sound.named other listed).1
  have filled := decide_eq_true (ne_nil_of_mem (slot_told member describes))
  rw [executionGraph, given]
  simp only [unit, filled, names, Bool.and_self, Checked.require_true, ok_bind]
  rfl

include member describes slot in
theorem workerId_ok : workerId told environment = .ok worker.id := by
  have found := (lookup_of_nodup describes.slotKeys).mpr (slot_told member describes)
  rw [workerId, slot, Option.bind_some, found]

include sound member describes position in
/-- The world groups tell a worker its rank only. -/
theorem worldRanks_eq :
    toString rank ∈ told.worldRanks worker.id ∧
      ∀ text ∈ told.worldRanks worker.id, text = toString rank := by
  have housed : graph.Houses worker.unit worker.id := ⟨worker, member, rfl, rfl⟩
  rcases sound.position member with ⟨only, onlyRank, _, unique⟩
  have ranks : ∀ text, text ∈ told.worldRanks worker.id ↔
      ∃ other : ProcessGroup, ∃ otherRank : Nat, graph.Position worker other otherRank ∧
        text = toString otherRank := by
    intro text
    simp only [UnitGraph.worldRanks, mem_flatMap, mem_filter, mem_map, decide_eq_true_eq]
    constructor
    · intro ⟨entry, ⟨inside, world⟩, ranked, ⟨listed, same⟩, printed⟩
      rcases (describes.groups entry).mp inside with ⟨other, otherListed, _, equal⟩
      rw [equal] at listed world
      have pair : (ranked.1, ranked.2) ∈ (graph.toldRanks worker.unit other).ranks := listed
      rcases mem_toldRanks.mp pair with ⟨otherRank, textSame, found, _⟩
      rw [same] at found
      exact ⟨other, otherRank, ⟨otherListed, world, found⟩, printed ▸ textSame⟩
    · intro ⟨other, otherRank, found, same⟩
      refine ⟨(other.id, graph.toldRanks worker.unit other), ⟨?_, found.world⟩,
        (text, worker.id), ⟨?_, rfl⟩, rfl⟩
      · exact (describes.groups _).mpr
          ⟨other, found.listed, ⟨otherRank, _, found.found, housed⟩, rfl⟩
      · exact mem_toldRanks.mpr ⟨otherRank, same, found.found, housed⟩
  constructor
  · exact (ranks _).mpr ⟨group, rank, position, rfl⟩
  · intro text inside
    rcases (ranks text).mp inside with ⟨other, otherRank, found, same⟩
    rw [same, (unique _ _ found).2, (unique _ _ position).2]

section Ranks

variable [Builtins]

theorem groupRank_printed (rank : Nat) : groupRank (toString rank) = .ok (rank : Int) := by
  have sign := decide_eq_true (Int.natCast_nonneg rank)
  have same : decide (toString (rank : Int) = toString rank) = true := decide_eq_true rfl
  rw [groupRank, Builtins.parseInt_repr]
  simp only [sign, same, Bool.and_self, Checked.require_true, ok_bind]
  rfl

include sound member describes slot position in
theorem topologyRank_ok : topologyRank told environment = .ok (some (rank : Int)) := by
  rcases worldRanks_eq sound member describes position with ⟨present, only⟩
  have texts := eq_replicate_of_mem only
  have several : (told.worldRanks worker.id).length ≠ 0 := by
    intro empty
    rw [length_eq_zero_iff.mp empty] at present
    cases present
  have computed : mapEach groupRank (told.worldRanks worker.id) =
      .ok (replicate (told.worldRanks worker.id).length (rank : Int)) := by
    rw [mapEach_eq_ok, texts, length_replicate]
    generalize (told.worldRanks worker.id).length = length
    induction length with
    | zero => exact .nil
    | succ length induction => exact .cons (groupRank_printed rank) induction
  rw [topologyRank, workerId_ok member describes slot, ok_bind, computed, ok_bind,
    replicate_dedup several]
  rfl

include sound member describes given slot position in
/-- A rank in the environment may only repeat that of the graph. -/
theorem globalRank_iff :
    globalRank environment true = .ok (some (rank : Int)) ↔
      explicitRank environment = .ok none ∨ explicitRank environment = .ok (some (rank : Int)) := by
  have topology := topologyRank_ok sound member describes slot position
  rw [globalRank, executionGraph_ok sound member describes given]
  cases explicit : explicitRank environment with
  | error error => simp [bind, Except.bind]
  | ok choice =>
    cases choice with
    | none => simp [topology, bind, Except.bind, pure, Except.pure]
    | some found =>
      by_cases same : found = rank
      · simp [topology, bind, Except.bind, pure, Except.pure, same]
      · simp [topology, bind, Except.bind, same]

end Ranks

def ExecutionGraph.Separate (graph : ExecutionGraph) (unit : String) (group : ProcessGroup)
    (rank : Nat) : Prop :=
  ∀ other ∈ graph.groups, isWorldKind other.kind = true →
    ∀ id, other.members[rank]? = some id → graph.Houses unit id → other = group

def ExecutionGraph.Together (graph : ExecutionGraph) (unit : String) (group : ProcessGroup) :
    Prop :=
  ∀ id ∈ group.members, graph.Houses unit id

include describes in
theorem mem_worldGroups :
    entry ∈ worldGroups rank told ↔
      ∃ group ∈ graph.groups, isWorldKind group.kind = true ∧
        (∃ id, group.members[rank]? = some id ∧ graph.Houses worker.unit id) ∧
        entry = (group.id, graph.toldRanks worker.unit group) := by
  rw [worldGroups, mem_filter, describes.groups, Bool.and_eq_true, any_eq_true]
  constructor
  · intro ⟨⟨group, listed, _, equal⟩, world, ranked, inside, same⟩
    rw [equal] at world inside
    have pair : (ranked.1, ranked.2) ∈ (graph.toldRanks worker.unit group).ranks := inside
    rcases mem_toldRanks.mp pair with ⟨other, printed, found, housed⟩
    have ranks := toString_nat_inj (printed ▸ of_decide_eq_true same)
    rw [ranks] at found
    exact ⟨group, listed, world, ⟨_, found, housed⟩, equal⟩
  · intro ⟨group, listed, world, ⟨id, found, housed⟩, equal⟩
    rw [equal]
    refine ⟨⟨group, listed, ⟨rank, id, found, housed⟩, rfl⟩, world, (toString rank, id), ?_, ?_⟩
    · exact mem_toldRanks.mpr ⟨rank, rfl, found, housed⟩
    · exact decide_eq_true rfl

include sound member describes position in
/-- A worker finds its world group exactly if the unit has no other one at its rank. -/
theorem worldGroup_iff {entry : GroupRanks} :
    worldGroup rank told = .ok (group.id, entry) ↔
      graph.Separate worker.unit group rank ∧ entry = graph.toldRanks worker.unit group := by
  have housed : graph.Houses worker.unit worker.id := ⟨worker, member, rfl, rfl⟩
  have own := (mem_worldGroups describes).mpr
    ⟨group, position.listed, position.world, ⟨_, position.found, housed⟩, rfl⟩
  have sameGroup : ∀ other ∈ graph.groups, other.id = group.id → other = group :=
    fun other listed => inj_on_of_nodup_map sound.groups listed position.listed
  have distinct : (worldGroups rank told).Nodup :=
    (Nodup.of_map _ describes.groupKeys).filter _
  rw [worldGroup]
  constructor
  · intro found
    split at found
    · rename_i only single
      have equal := Except.ok.inj found
      rw [single, mem_singleton] at own
      refine ⟨?_, ?_⟩
      · intro other listed world id inside placed
        have there := (mem_worldGroups describes).mpr
          ⟨other, listed, world, ⟨id, inside, placed⟩, rfl⟩
        rw [single, mem_singleton, ← own] at there
        exact sameGroup other listed (congrArg Prod.fst there)
      · rw [equal] at own
        exact (congrArg Prod.snd own).symm
    · cases found
  · intro ⟨separate, same⟩
    have single : worldGroups rank told = [(group.id, graph.toldRanks worker.unit group)] := by
      apply perm_singleton.mp
      rw [perm_ext_iff_of_nodup distinct (nodup_singleton _)]
      intro entry
      rw [mem_singleton]
      constructor
      · intro inside
        rcases (mem_worldGroups describes).mp inside with
          ⟨other, listed, world, ⟨id, found, placed⟩, equal⟩
        rw [equal, separate other listed world id found placed]
      · intro equal
        rw [equal]
        exact own
    rw [single, same]

/-- The ranks which a unit is told are those of the group exactly if all its workers are in the
unit. -/
theorem toldRanks_iff :
    (∀ (position : Nat) (id : String),
      (toString position, id) ∈ (graph.toldRanks unit group).ranks ↔
        group.members[position]? = some id) ↔
      graph.Together unit group := by
  constructor
  · intro complete id inside
    rcases mem_iff_getElem?.mp inside with ⟨position, found⟩
    rcases mem_toldRanks.mp ((complete position id).mpr found) with ⟨_, _, _, housed⟩
    exact housed
  · intro together position id
    constructor
    · intro inside
      rcases mem_toldRanks.mp inside with ⟨other, printed, found, _⟩
      rwa [toString_nat_inj printed]
    · intro found
      exact mem_toldRanks.mpr ⟨position, rfl, found, together id (mem_of_getElem? found)⟩

end Resolving

/-- The functions return the identifier of the worker, its rank, and its world group with all
members. -/
structure Resolves [Builtins] (environment : Environment) (worker : Worker) (group : ProcessGroup)
    (rank : Nat) : Prop where
  identifier : ownWorkerId environment = .ok worker.id
  global : globalRank environment true = .ok (some (rank : Int))
  world : ∃ entry, ownWorldGroup rank environment = .ok (group.id, entry) ∧
    entry.size = group.members.length ∧
    ∀ (position : Nat) (id : String),
      (toString position, id) ∈ entry.ranks ↔ group.members[position]? = some id

/-- In a validated launch every worker has one position, and finds it exactly if no other world
group has a worker of the unit at its rank, all members of its own one are in the unit, and the
environment has no other rank. -/
theorem resolves_iff [PayloadFormat] [Builtins] {launch : LaunchSpec}
    (valid : launch.validate = .ok ()) {worker : Worker}
    (member : worker ∈ launch.execution.workers) {told : UnitGraph}
    (computed : workerMapJSON launch worker.unit = .ok told) {environment : Environment}
    (given : environment.executionGraph = some told)
    (slot : environment.localRank = some (toString worker.processSlot)) :
    ∃ group rank, launch.execution.Position worker group rank ∧
      (∀ other otherRank, launch.execution.Position worker other otherRank →
        other = group ∧ otherRank = rank) ∧
      (Resolves environment worker group rank ↔
        launch.execution.Separate worker.unit group rank ∧
        launch.execution.Together worker.unit group ∧
        (explicitRank environment = .ok none ∨
          explicitRank environment = .ok (some (rank : Int)))) := by
  have sound := LaunchSpec.sound valid
  have describes := describes_of_told sound computed
  have accepted := executionGraph_ok sound member describes given true
  rcases sound.position member with ⟨group, rank, position, unique⟩
  have global := globalRank_iff sound member describes given slot position
  have worldOf : ownWorldGroup rank environment = worldGroup rank told := by
    rw [ownWorldGroup, accepted]
    rfl
  refine ⟨group, rank, position, unique, ?_⟩
  constructor
  · intro resolves
    rcases resolves.world with ⟨entry, found, _, complete⟩
    rw [worldOf, worldGroup_iff sound member describes position] at found
    rw [found.2] at complete
    exact ⟨found.1, toldRanks_iff.mp complete, global.mp resolves.global⟩
  · intro ⟨separate, together, explicit⟩
    constructor
    · rw [ownWorkerId, accepted]
      exact workerId_ok member describes slot
    · exact global.mpr explicit
    · refine ⟨launch.execution.toldRanks worker.unit group, ?_, rfl, toldRanks_iff.mpr together⟩
      rw [worldOf, worldGroup_iff sound member describes position]
      exact ⟨separate, rfl⟩

/-! ## Two services in one unit -/

@[reducible] def PayloadFormat.empty : PayloadFormat where
  isObject payload := if payload = [0x7B, 0x7D] then some true else none
  canonicalSHA256 payload := .ok (sha256 payload)

def emptyTopology : AdapterTopology :=
  ⟨"vllm:topology", "sha256:" ++ sha256 [0x7B, 0x7D], [0x7B, 0x7D]⟩

def pinnedDigest : String := "sha256:" ++ .ofList (replicate 64 '0')

def oneUnit : LaunchUnit where
  id := "unit-0"
  index := 0
  host := "10.0.0.1"
  environment := []
  command := ["vllm", "serve", "model"]
  devices := ["0", "1"]
  image := pinnedDigest
  imageDigest := pinnedDigest
  mounts := []

def workerAt (id service : String) (slot : Int) : Worker := ⟨id, "unit-0", service, slot, [slot]⟩

def launchOf (workers : List Worker) (groups : List ProcessGroup)
    (services : List ServiceDomain) : LaunchSpec where
  engine := "vllm"
  modelId := "model"
  modelRevision := "main"
  units := [oneUnit]
  execution := ⟨workers, groups, services, emptyTopology⟩

def oneWorld : ProcessGroup := ⟨"world", "vllm:world", "engine", ["worker-0", "worker-1"]⟩

def oneService : LaunchSpec :=
  launchOf [workerAt "worker-0" "engine" 0, workerAt "worker-1" "engine" 1]
    [oneWorld]
    [⟨"engine", "vllm:engine", ["worker-0", "worker-1"]⟩]

def twoServices : LaunchSpec :=
  launchOf [workerAt "worker-0" "first" 0, workerAt "worker-1" "second" 1]
    [⟨"first-world", "vllm:world", "first", ["worker-0"]⟩,
      ⟨"second-world", "vllm:world", "second", ["worker-1"]⟩]
    [⟨"first", "vllm:engine", ["worker-0"]⟩, ⟨"second", "vllm:engine", ["worker-1"]⟩]

def secondEnvironment (launch : LaunchSpec) : Environment where
  executionGraph := (workerMapJSON launch "unit-0").toOption
  localRank := some "1"
  rank := none
  coldsnapRank := none
  coldsnapExpectedRank := none

/-- With one engine the second worker finds everything. -/
theorem resolves_one_service :
    @LaunchSpec.validate .empty oneService = .ok () ∧
    @Resolves .decimal (secondEnvironment oneService) (workerAt "worker-1" "engine" 1) oneWorld
      1 := by
  let := PayloadFormat.empty
  let := Builtins.decimal
  have valid : oneService.validate = .ok () := by decide +kernel
  have member : workerAt "worker-1" "engine" 1 ∈ oneService.execution.workers := by decide
  have position : oneService.execution.Position (workerAt "worker-1" "engine" 1) oneWorld 1 :=
    ⟨by decide, by decide, rfl⟩
  have together : oneService.execution.Together "unit-0" oneWorld := by
    unfold ExecutionGraph.Together ExecutionGraph.Houses
    decide
  have separate : oneService.execution.Separate "unit-0" oneWorld 1 :=
    fun other listed _ _ _ _ => mem_singleton.mp listed
  rcases workerMapJSON_ok member with ⟨told, computed⟩
  have given : (secondEnvironment oneService).executionGraph = some told :=
    congrArg Except.toOption computed
  rcases resolves_iff valid member computed given rfl with ⟨group, rank, _, unique, resolves⟩
  rcases unique _ _ position with ⟨sameGroup, sameRank⟩
  rw [← sameGroup, ← sameRank] at resolves
  exact ⟨valid, resolves.mpr ⟨separate, together, .inl rfl⟩⟩

/-- With two engines both world groups have a worker of the unit at rank 0. -/
theorem unresolved_two_services :
    @LaunchSpec.validate .empty twoServices = .ok () ∧
    ownWorkerId (secondEnvironment twoServices) = .ok "worker-1" ∧
    @globalRank .decimal (secondEnvironment twoServices) true = .ok (some 0) ∧
    ownWorldGroup 0 (secondEnvironment twoServices) =
      .error (runtimeError "runtime rank does not identify exactly one world group") := by
  decide +kernel

end Coldsnap.Topology
