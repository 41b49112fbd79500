import Coldsnap.Foundation.Paths
import Coldsnap.Foundation.Sha256
import Coldsnap.Placement.Launches

/-! # The execution graph of a launch

`ExecutionGraph.Validate` of `internal/snapshot/topology.go`, `LaunchSpec.Validate` of
`internal/snapshot/schema.go`, and `workerMapJSON` of `internal/inferenceadapter/adapter.go`,
which tells a unit its part of the graph.
-/

namespace Coldsnap.Topology

open Go Python Placement

def idPattern (text : String) : Bool :=
  match text.toList with
  | [] => false
  | first :: rest =>
    first.isAlphanum && rest.length ≤ 127 &&
      rest.all fun character =>
        character.isAlphanum || character = '.' || character = '_' || character = '-'

def digestPattern (text : String) : Bool :=
  "sha256:".toList.isPrefixOf text.toList && text.toList.length = 71 &&
    (text.toList.drop 7).all fun character =>
      character.isDigit || ('a' ≤ character && character ≤ 'f')

def envPattern (text : String) : Bool :=
  match text.toList with
  | [] => false
  | first :: rest =>
    (first.isAlpha || first = '_') &&
      rest.all fun character => character.isAlphanum || character = '_'

def nul : Char := Char.ofNat 0

def isBlank (character : Char) : Bool :=
  character = ' ' || character = '\t' || character = '\r' || character = '\n' || character = nul

def qualifiedName (value : String) : Bool :=
  let before := value.toList.takeWhile (· ≠ ':')
  match value.toList.drop before.length with
  | [] => false
  | _ :: after =>
    !value.toList.any isBlank && idPattern (.ofList before) && idPattern (.ofList after)

def imageBindsDigest (reference digest : String) : Bool :=
  let behind := (reference.toList.reverse.takeWhile (· ≠ '@')).reverse
  reference = digest ||
    (reference.toList.contains '@' && behind.length + 1 < reference.toList.length &&
      behind = digest.toList)

structure Worker where
  id : String
  unit : String
  service : String
  processSlot : Int
  deviceSlots : List Int
deriving DecidableEq, Repr

structure ProcessGroup where
  id : String
  kind : String
  service : String
  members : List String
deriving DecidableEq, Repr

structure ServiceDomain where
  id : String
  role : String
  workers : List String
deriving DecidableEq, Repr

structure AdapterTopology where
  schema : String
  digest : String
  payload : List UInt8
deriving DecidableEq

structure ExecutionGraph where
  workers : List Worker
  groups : List ProcessGroup
  services : List ServiceDomain
  adapter : AdapterTopology
deriving DecidableEq

structure Mount where
  source : String
  target : String
deriving DecidableEq, Repr

/-- The fields which the validation reads beside those of the placement. -/
structure LaunchUnit extends Placement.LaunchUnit where
  devices : List String
  image : String
  imageDigest : String
  mounts : List Mount
deriving DecidableEq, Repr

structure LaunchSpec where
  engine : String
  modelId : String
  modelRevision : String
  units : List LaunchUnit
  execution : ExecutionGraph
deriving DecidableEq

/-- `encoding/json` and `CanonicalSHA256`, as far as the adapter topology uses them: whether a
payload is one JSON value, and if so an object, and the digest of its canonical form. -/
class PayloadFormat where
  isObject : List UInt8 → Option Bool
  canonicalSHA256 : List UInt8 → Result String

def AdapterTopology.validate [PayloadFormat] (topology : AdapterTopology) : Result Unit := do
  check (qualifiedName topology.schema && digestPattern topology.digest && topology.payload ≠ [])
    "adapter topology identity is incomplete"
  match PayloadFormat.isObject topology.payload with
  | none => .error "adapter topology payload is invalid JSON"
  | some isObject => do
    check isObject "adapter topology payload must be an object"
    let digest ← within "canonicalize adapter topology"
      (PayloadFormat.canonicalSHA256 topology.payload)
    check (topology.digest = "sha256:" ++ digest) "adapter topology payload digest mismatch"

/-- A world group holds the global ranks of an engine. -/
def isWorldKind (kind : String) : Bool := ":world".toList.isSuffixOf kind.toList

namespace ExecutionGraph

def validateUnit (known : List String) (unit : LaunchUnit) : Result (List String) := do
  check (idPattern unit.id && unit.id ∉ known)
    "execution graph contains an invalid or duplicate unit ID"
  return unit.id :: known

def validateService (known : List String) (service : ServiceDomain) : Result (List String) := do
  check (idPattern service.id && qualifiedName service.role && service.id ∉ known &&
      service.workers ≠ [])
    "execution graph contains an invalid service"
  return service.id :: known

structure WorkerState where
  ids : List String
  slots : List (String × Int)
  devices : List (String × Int)

def claimDevice (worker : Worker) (unit : LaunchUnit) (state : List Int × List (String × Int))
    (slot : Int) : Result (List Int × List (String × Int)) := do
  check (0 ≤ slot && slot < unit.devices.length && slot ∉ state.1 &&
      (worker.unit, slot) ∉ state.2)
    s!"worker {worker.id} contains an invalid or shared device slot"
  return (slot :: state.1, (worker.unit, slot) :: state.2)

def validateWorker (units : List LaunchUnit) (services : List ServiceDomain) (state : WorkerState)
    (worker : Worker) : Result WorkerState :=
  match units.find? (·.id = worker.unit) with
  | none => .error "execution graph contains an invalid worker"
  | some unit => do
    check (idPattern worker.id && worker.id ∉ state.ids &&
        services.any (·.id = worker.service) && 0 ≤ worker.processSlot &&
        worker.deviceSlots ≠ [])
      "execution graph contains an invalid worker"
    check ((worker.unit, worker.processSlot) ∉ state.slots)
      s!"unit {worker.unit} contains duplicate process slot {worker.processSlot}"
    let claimed ← forEach (claimDevice worker unit) ([], state.devices) worker.deviceSlots
    return ⟨worker.id :: state.ids, (worker.unit, worker.processSlot) :: state.slots, claimed.2⟩

variable (workers : List Worker)

def serves (service id : String) : Bool :=
  (workers.find? (·.id = id)).any (·.service = service)

def validateServiceMember (service : ServiceDomain)
    (members : List String) (id : String) : Result (List String) := do
  check (serves workers service.id id && id ∉ members)
    s!"service {service.id} contains an invalid worker membership"
  return id :: members

structure GroupState where
  ids : List String
  grouped : List String
  world : List String

def validateMember (group : ProcessGroup)
    (state : List String × GroupState) (id : String) : Result (List String × GroupState) := do
  check (serves workers group.service id && id ∉ state.1)
    s!"process group {group.id} contains an invalid worker membership"
  return (id :: state.1, { state.2 with
    grouped := id :: state.2.grouped
    world := state.2.world ++ if isWorldKind group.kind then [id] else [] })

def validateGroup (services : List ServiceDomain) (state : GroupState)
    (group : ProcessGroup) : Result GroupState := do
  check (idPattern group.id && qualifiedName group.kind && group.id ∉ state.ids &&
      group.members ≠ [])
    "execution graph contains an invalid process group"
  check (services.any (·.id = group.service))
    s!"process group {group.id} references an unknown service"
  let final ← forEach (validateMember workers group)
    ([], { state with ids := group.id :: state.ids }) group.members
  return final.2

def checkEach {β : Type} (items : List β) (step : β → Result Unit) : Result Unit :=
  forEach (fun _ item => step item) () items

variable [PayloadFormat]

def validate (graph : ExecutionGraph) (units : List LaunchUnit) : Result Unit := do
  check (units ≠ [] && graph.workers ≠ [] && graph.groups ≠ [] && graph.services ≠ [])
    "execution graph requires units, workers, groups, and services"
  let _ ← forEach validateUnit [] units
  let _ ← forEach validateService [] graph.services
  let placed ← forEach (validateWorker units graph.services) ⟨[], [], []⟩ graph.workers
  checkEach units fun unit =>
    check (placed.slots.any (·.1 = unit.id)) s!"launch unit {unit.id} has no workers"
  checkEach graph.services fun service => do
    let _ ← forEach (validateServiceMember graph.workers service) [] service.workers
  checkEach graph.workers fun worker =>
    check (graph.services.any fun service =>
        service.id = worker.service && service.workers.contains worker.id)
      s!"worker {worker.id} is absent from service {worker.service}"
  let grouping ← forEach (validateGroup graph.workers graph.services) ⟨[], [], []⟩ graph.groups
  checkEach graph.workers fun worker => do
    check (grouping.grouped.contains worker.id) s!"worker {worker.id} belongs to no process group"
    check (grouping.world.count worker.id = 1)
      s!"worker {worker.id} must belong to exactly one engine world group"
  graph.adapter.validate

end ExecutionGraph

namespace LaunchSpec

structure UnitState where
  devices : List (String × String)
  ids : List String

def validateDevice (unit : LaunchUnit) (state : List String × List (String × String))
    (selector : String) : Result (List String × List (String × String)) := do
  check (selector ≠ "" && !selector.toList.contains nul && selector ∉ state.1 &&
      (unit.host, selector) ∉ state.2)
    s!"launch unit {unit.id} device assignment is invalid or duplicated"
  return (selector :: state.1, (unit.host, selector) :: state.2)

def validateMount (unit : LaunchUnit) (targets : List String) (mount : Mount) :
    Result (List String) := do
  check (Paths.isCleanAbsolute mount.source && !mount.source.toList.contains nul &&
      Paths.isCleanAbsolute mount.target && mount.target ∉ targets)
    s!"launch unit {unit.id} mount is invalid"
  return mount.target :: targets

def validateUnit (state : UnitState) (entry : LaunchUnit × Nat) : Result UnitState := do
  let unit := entry.1
  check (idPattern unit.id && unit.index = entry.2 && unit.id ∉ state.ids && unit.host ≠ "" &&
      unit.devices ≠ [] && unit.image ≠ "" && unit.command ≠ [])
    s!"launch unit {quoted unit.id} is incomplete or duplicated"
  check (!unit.image.toList.any isBlank) s!"launch unit {unit.id} image reference is invalid"
  check (digestPattern unit.imageDigest) s!"launch unit {unit.id} image digest is invalid"
  check (imageBindsDigest unit.image unit.imageDigest)
    s!"launch unit {unit.id} image is not pinned to its digest"
  let assigned ← forEach (validateDevice unit) ([], state.devices) unit.devices
  check (unit.command.all fun argument => argument ≠ "" && !argument.toList.contains nul)
    s!"launch unit {unit.id} command is invalid"
  check (unit.environment.all fun entry => envPattern entry.1 && !entry.2.toList.contains nul)
    s!"launch unit {unit.id} environment is invalid"
  let _ ← forEach (validateMount unit) [] unit.mounts
  return ⟨assigned.2, unit.id :: state.ids⟩

variable [PayloadFormat]

def validate (launch : LaunchSpec) : Result Unit := do
  check (launch.engine = "vllm" || launch.engine = "sglang")
    s!"unsupported inference engine {quoted launch.engine}"
  check (launch.modelId ≠ "" && launch.modelRevision ≠ "" && !launch.modelId.toList.contains nul &&
      !launch.modelRevision.toList.contains nul)
    "model ID and immutable revision are required"
  check (launch.units ≠ []) "launch contains no process-tree units"
  let _ ← forEach validateUnit ⟨[], []⟩ launch.units.zipIdx
  launch.execution.validate launch.units

end LaunchSpec

def marshalled {α : Type} (entries : List (String × α)) : List (String × α) :=
  sortedOn Prod.fst entries

structure GroupRanks where
  kind : String
  size : Nat
  ranks : List (String × String)
deriving DecidableEq, Repr

structure UnitGraph where
  unit : String
  byProcessSlot : List (String × String)
  groups : List (String × GroupRanks)
deriving DecidableEq, Repr

def ExecutionGraph.unitWorkers (graph : ExecutionGraph) (unitId : String) : List Worker :=
  sortedOn Worker.processSlot (graph.workers.filter (·.unit = unitId))

def ProcessGroup.ranksOf (group : ProcessGroup) (ids : List String) : List (Nat × String) :=
  (group.members.zipIdx.filter fun member => ids.contains member.1).map Prod.swap

def ProcessGroup.told (group : ProcessGroup) (ids : List String) : Option (String × GroupRanks) :=
  let ranks := group.ranksOf ids
  if ranks = [] then none
  else some (group.id, ⟨group.kind, group.members.length,
    marshalled (ranks.map fun entry => (toString entry.1, entry.2))⟩)

def workerMapJSON (launch : LaunchSpec) (unitId : String) : Result UnitGraph := do
  let workers := launch.execution.unitWorkers unitId
  let ids := workers.map Worker.id
  let bySlot := mapOf (workers.map fun worker => (worker.processSlot, worker.id))
  check (workers ≠ []) s!"unit {unitId} has no workers"
  return {
    unit := unitId
    byProcessSlot := marshalled (bySlot.map fun entry => (toString entry.1, entry.2))
    groups := marshalled (mapOf (launch.execution.groups.filterMap (·.told ids))) }

end Coldsnap.Topology
