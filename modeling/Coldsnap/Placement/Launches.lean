import Coldsnap.Placement.Sockets

/-! # Placing a launch

`placementTCPAddressMap`, `portableHTTPPortPolicy` and `selectPortableTCPPortShift` of
`internal/inferenceadapter/adapter.go`, and `_criu_command` of the rank controllers
`runtime/engine/coldsnap_engine_rank_n580.py` and `runtime/engine/coldsnap_engine_rank_n610.py`.
-/

namespace Coldsnap.Placement

open Go Python Address

/-- The fields of a launch unit which the placement reads. -/
structure LaunchUnit where
  id : String
  index : Int
  host : String
  environment : List (String × String)
  command : List String
deriving DecidableEq, Repr

def LaunchUnit.environmentValue (unit : LaunchUnit) (name : String) : String :=
  (unit.environment.lookup name).getD ""

abbrev UnitPair := LaunchUnit × LaunchUnit

section Addresses

variable [Netip]

def LaunchUnit.placementText (unit : LaunchUnit) : String :=
  if unit.environmentValue "VLLM_HOST_IP" ≠ "" then unit.environmentValue "VLLM_HOST_IP"
  else if unit.environmentValue "NODE_IP" ≠ "" then unit.environmentValue "NODE_IP"
  else unit.host

def rankPlacementAddress (unit : LaunchUnit) : Result Address :=
  match Netip.parseAddr unit.placementText with
  | none =>
    .error s!"rank {unit.index} placement address {quoted unit.placementText} is not an IP address"
  | some address => do
    check (portablePlacementAddress address.unmap)
      s!"rank {unit.index} placement address {quoted unit.placementText} is not portable"
    return address.unmap

structure PlacementState where
  pairs : List (Address × Address)
  result : List String

def placeUnit (state : PlacementState) (pair : UnitPair) : Result PlacementState := do
  let old ← within "captured placement" (rankPlacementAddress pair.1)
  let new ← within "restore placement" (rankPlacementAddress pair.2)
  check (state.pairs.all fun known => known.1 ≠ old || known.2 = new)
    "one captured host address maps to multiple restore hosts"
  check (state.pairs.all fun known => known.2 ≠ new || known.1 = old)
    "multiple captured host addresses map to one restore host"
  check (old.is4 = new.is4) s!"unit {pair.1.id} restore placement changes IP family"
  return {
    pairs := (old, new) :: state.pairs
    result :=
      if mappingText old new ∈ state.result then state.result
      else state.result ++ [mappingText old new] }

def placementTCPAddressMap (captured requested : List LaunchUnit) : Result (List String) := do
  check (captured.length = requested.length) "restore launch rank count differs from the capture"
  let final ← forEach placeUnit ⟨[], []⟩ (captured.zip requested)
  return final.result

end Addresses

def policyStep (state : Nat × Nat) (pair : UnitPair) : Result (Nat × Nat) :=
  let before := httpPort pair.1.command
  let after := httpPort pair.2.command
  if before.val < portableTCPPortBase ∨ after.val < portableTCPPortBase then do
    check (before = after) ("unit " ++ pair.1.id ++
      " cannot migrate a privileged serving port from " ++ toString before.val ++ " to " ++ toString after.val)
    return (state.1 + 1, state.2)
  else if state.1 = 0 then return (state.1 + 1, shiftBetween before after)
  else do
    check (state.2 = shiftBetween before after)
      "restore units require inconsistent serving-port mappings"
    return (state.1 + 1, state.2)

/-- The rotation which the serving ports fix, or that they are preserved. -/
structure PortPolicy where
  fixedShift : Nat
  preserve : Bool
deriving DecidableEq, Repr

def portableHTTPPortPolicy (captured requested : List LaunchUnit) : Result PortPolicy := do
  check (captured.length = requested.length) "restore launch rank count differs from the capture"
  let final ← forEach policyStep (0, 0) (captured.zip requested)
  return if final.2 = 0 then ⟨0, true⟩ else ⟨final.2, false⟩

inductive Driver where
  | n580
  | n610
deriving DecidableEq, Repr

/-- What a rank controller is started with, and what it reads from the captured identity. -/
structure RankArguments where
  tcpAddressMap : List String
  tcpPortShift : Nat
  httpPort : Port
  capturedHttpPort : Port
deriving DecidableEq, Repr

/-- The adapter passes the port of the requested command. `_identity_http_port` reads that of
the captured one. -/
def rankArguments (tcpAddressMap : List String) (tcpPortShift : Nat) (pair : UnitPair) :
    Checked RankArguments := do
  let capturedHttpPort ← commandHttpPort pair.1.command
  return ⟨tcpAddressMap, tcpPortShift, httpPort pair.2.command, capturedHttpPort⟩

def portOptions (args : RankArguments) (allowEmptyMap : Bool) : TcpOptions where
  tcpAddressMap := args.tcpAddressMap
  tcpPortShift := args.tcpPortShift
  tcpPreservePort :=
    if args.tcpPortShift ≠ 0 ∧ args.capturedHttpPort = args.httpPort then args.httpPort.val else 0
  tcpPortMap :=
    if args.capturedHttpPort ≠ args.httpPort then some (args.capturedHttpPort, args.httpPort)
    else none
  tcpAllowEmptyMap := allowEmptyMap

def criuCommand : Driver → RankArguments → TcpOptions
  | .n610, args =>
    if args.tcpAddressMap = [] then ⟨[], 0, 0, none, false⟩ else portOptions args false
  | .n580, args => portOptions args (decide (args.tcpAddressMap ≠ []))

section Selection

variable [Netip]

/-- The explicit port map of all probes: the serving ports of the first unit. -/
def probePortMap (policy : PortPolicy) (first : Option UnitPair) : Option (Port × Port) :=
  if policy.fixedShift = 0 then none
  else first.map fun pair => (httpPort pair.1.command, httpPort pair.2.command)

section Probes

variable (driver : Driver) (policy : PortPolicy) (first : Option UnitPair)
  (addressMapping : List String) (candidate : Nat) (unit : LaunchUnit)

def probeTcpOptions : TcpOptions where
  tcpAddressMap := addressMapping
  tcpPortShift := candidate
  tcpPreservePort := if policy.preserve then (httpPort unit.command).val else 0
  tcpPortMap := probePortMap policy first
  tcpAllowEmptyMap := driver = .n580

/-- What `selectPortableTCPPortShift` does for a unit: a probe, or a collision it finds
itself. -/
inductive ProbePlan where
  | probe (options : TcpProbeOptions)
  | collision (message : String)
deriving DecidableEq, Repr

def probePlan : Result ProbePlan :=
  let options := probeTcpOptions driver policy first addressMapping candidate unit
  match driver with
  | .n610 => .ok (.probe ⟨options, [], []⟩)
  | .n580 => do
    let address ← rankPlacementAddress unit
    let wildcard := if address.is4 then Address.ip4 0 else Address.ip6 0 0 0 0
    let http := httpPort unit.command
    let masterPort := commandMasterPort unit.command
    check (portableTCPPortBase ≤ masterPort.val)
      s!"unit {unit.id} rendezvous port must be unprivileged"
    let master := rotatePortableTCPPort masterPort candidate
    if master = http then
      return .collision s!"unit {unit.id}: rendezvous port overlaps serving port {http.val}"
    else if policy.fixedShift ≠ 0 then
      return .probe ⟨options, [(wildcard, http), (wildcard, master)], []⟩
    else return .probe ⟨options, [(wildcard, http)], [(wildcard, master)]⟩

def probeUnit (host : Host) (image : Image) : Result (Option String) := do
  match ← probePlan driver policy first addressMapping candidate unit with
  | .collision message => return some message
  | .probe options => do
    let receipt ← within s!"unit {unit.id} rejected TCP port shift {candidate}"
      (runTCPProbe host options image)
    check (decide ((if driver = .n580 then 2 else 1) ≤ receipt.endpoints))
      s!"unit {unit.id} returned an invalid TCP port probe receipt"
    return if receipt.available then none else some s!"unit {unit.id}: collision"

end Probes

structure Placed where
  pair : UnitPair
  driver : Driver
  host : Host
  image : Image

def selectAmong (policy : PortPolicy) (units : List Placed) (addressMapping : List String) :
    List Nat → List Nat → Result Nat
  | _, [] => .error "no collision-free TCP port generation found"
  | seen, candidate :: rest =>
    if candidate ∈ seen then selectAmong policy units addressMapping seen rest
    else do
      let collisions ← mapEach (fun unit : Placed => probeUnit unit.driver policy
        ((units.head?).map Placed.pair) addressMapping candidate unit.pair.2 unit.host unit.image)
        units
      if collisions.all Option.isNone then return candidate
      else selectAmong policy units addressMapping (candidate :: seen) rest

def selectPortableTCPPortShift (candidates : Nat → Nat) (units : List Placed)
    (addressMapping : List String) : Result Nat := do
  let policy ← portableHTTPPortPolicy (units.map (·.pair.1)) (units.map (·.pair.2))
  let offered :=
    if policy.fixedShift ≠ 0 then [policy.fixedShift] else (List.range 32).map candidates
  selectAmong policy units addressMapping [] offered

end Selection

end Coldsnap.Placement
