import Coldsnap.Placement.Addresses
import Coldsnap.Placement.Ports

/-! # Rewriting the sockets of an image

`rewriteTCPSocketEndpoints`, the options of a restore, and `runTCPProbe`, of
`cmd/coldsnap-criu-rpc/internal/criurpc`.
-/

namespace Coldsnap.Placement

open Go Address

def protoTCP : Nat := 6

def familyInet : Nat := 2

def familyInet6 : Nat := 10

structure InetSocket where
  id : Nat
  family : Nat
  proto : Nat
  state : Nat
  srcAddr : List UInt32
  dstAddr : List UInt32
  srcPort : Port
  dstPort : Port
  v6Only : Bool
deriving DecidableEq, Repr

abbrev Image := List InetSocket

structure BindEndpoint where
  id : Nat
  family : Nat
  address : Address
  port : Port
  v6Only : Bool
  state : Nat
  avoidEphemeral : Bool
deriving DecidableEq, Repr

/-- What two endpoints have in common if one of them is enough. -/
structure BindKey where
  family : Nat
  address : Address
  port : Port
  v6Only : Bool
deriving DecidableEq, Repr

def BindEndpoint.key (endpoint : BindEndpoint) : BindKey :=
  ⟨endpoint.family, endpoint.address, endpoint.port, endpoint.v6Only⟩

def distinctEndpoints : List BindKey → List BindEndpoint → List BindEndpoint
  | _, [] => []
  | seen, endpoint :: rest =>
    if endpoint.key ∈ seen then distinctEndpoints seen rest
    else endpoint :: distinctEndpoints (endpoint.key :: seen) rest

structure Plan where
  mapping : AddressMap
  portShift : Nat
  preservePort : Nat
  portMapping : Option PortMapping
  allowEmptyMap : Bool
  shiftBound : portShift ≤ 64511

def remapCRIUAddress (parts : List UInt32) (mapping : AddressMap) : Result (List UInt32 × Bool) :=
  match decodeCRIUAddress parts with
  | none => .error "CRIU socket address has an invalid representation"
  | some address =>
    match mapping.lookup address.unmap with
    | none => .ok (parts, false)
    | some destination => do
      let encoded ← encodeCRIUAddress destination parts.length
      return (encoded, true)

def mappedLocalPorts (mapping : AddressMap) (image : Image) : List Port :=
  image.filterMap fun socket =>
    match decodeCRIUAddress socket.srcAddr with
    | none => none
    | some source =>
      if (mapping.lookup source.unmap).isSome ∧ socket.srcPort ≠ (0 : Port) then some socket.srcPort
      else none

structure RewrittenSocket where
  socket : InetSocket
  addressChanges : Nat
  portChanges : Nat
  endpoint : Option BindEndpoint

def exchangePort (mapping : Option PortMapping) (port : Port) : Port × Bool :=
  match mapping with
  | some mapping => if port = mapping.source then (mapping.destination, true) else (port, false)
  | none => (port, false)

def Plan.rotate (plan : Plan) (applies : Bool) (port : Port) : Port × Bool :=
  if plan.portShift ≠ 0 ∧ applies = true ∧ portableTCPPortBase ≤ port.val ∧
      port.val ≠ plan.preservePort then
    (rotatePortableTCPPort port plan.portShift, true)
  else (port, false)

def rewriteSocket (plan : Plan) (mappedPorts : List Port) (socket : InetSocket) :
    Result RewrittenSocket := do
  let (exchangedSource, sourcePortMapped) := exchangePort plan.portMapping socket.srcPort
  let (exchangedDestination, destinationPortMapped) :=
    exchangePort plan.portMapping socket.dstPort
  let (source, sourceChanged) ← remapCRIUAddress socket.srcAddr plan.mapping
  let (destination, destinationChanged) ← remapCRIUAddress socket.dstAddr plan.mapping
  let tcp := decide (socket.proto = protoTCP)
  check (!(sourceChanged || destinationChanged) || tcp)
    s!"address mapping matched non-TCP CRIU socket {socket.id}"
  let unspecified := (decodeCRIUAddress source).any isUnspecified
  let rotateSource :=
    sourceChanged || (tcp && unspecified && decide (exchangedSource ∈ mappedPorts))
  let (srcPort, sourceRotated) :=
    plan.rotate (tcp && rotateSource && !sourcePortMapped) exchangedSource
  let (dstPort, destinationRotated) :=
    plan.rotate (tcp && destinationChanged && !destinationPortMapped) exchangedDestination
  let rewritten : InetSocket :=
    { socket with srcAddr := source, dstAddr := destination, srcPort, dstPort }
  let addressChanges := sourceChanged.toNat + destinationChanged.toNat
  let portChanges := sourcePortMapped.toNat + destinationPortMapped.toNat +
    sourceRotated.toNat + destinationRotated.toNat
  if !tcp || (!rotateSource && !sourcePortMapped) || decide (srcPort = 0) then
    return ⟨rewritten, addressChanges, portChanges, none⟩
  else
    match decodeCRIUAddress source with
    | none => .error s!"decode CRIU socket {socket.id} rebound source"
    | some localAddress =>
      return ⟨rewritten, addressChanges, portChanges, some
        ⟨socket.id, socket.family, localAddress, srcPort, socket.v6Only, socket.state, false⟩⟩

structure Rewriting where
  image : Image
  addressChanges : Nat
  portChanges : Nat
  endpoints : List BindEndpoint

def rewriteTCPSocketEndpoints (plan : Plan) (image : Image) : Result Rewriting := do
  let sockets ← mapEach (rewriteSocket plan (mappedLocalPorts plan.mapping image)) image
  let addressChanges := (sockets.map RewrittenSocket.addressChanges).sum
  check (addressChanges ≠ 0 || plan.allowEmptyMap)
    "TCP address mapping matched no CRIU socket endpoints"
  return {
    image := sockets.map RewrittenSocket.socket
    addressChanges
    portChanges := (sockets.map RewrittenSocket.portChanges).sum
    endpoints := distinctEndpoints [] (sockets.filterMap RewrittenSocket.endpoint) }

structure TcpOptions where
  tcpAddressMap : List String
  tcpPortShift : Nat
  tcpPreservePort : Nat
  tcpPortMap : Option (Port × Port)
  tcpAllowEmptyMap : Bool
deriving DecidableEq, Repr

def parseOptions [Netip] (value : TcpOptions) : Result Plan :=
  if bound : 64511 < value.tcpPortShift then .error "--tcp-port-shift must be in [0, 64511]"
  else do
    check (value.tcpPreservePort ≤ 65535) "--tcp-preserve-port must be in [0, 65535]"
    check (value.tcpPortShift = 0 || value.tcpAddressMap ≠ [])
      "--tcp-port-shift requires --tcp-address-map"
    check (value.tcpPreservePort = 0 || value.tcpPortShift ≠ 0)
      "--tcp-preserve-port requires --tcp-port-shift"
    check (!value.tcpAllowEmptyMap || value.tcpAddressMap ≠ [])
      "--tcp-allow-empty-map requires --tcp-address-map"
    let portMapping ← parseTCPPortMap value.tcpPortMap
    let mapping ← parseTCPAddressMap value.tcpAddressMap
    return ⟨mapping, value.tcpPortShift, value.tcpPreservePort, portMapping,
      value.tcpAllowEmptyMap, Nat.le_of_not_lt bound⟩

structure TcpProbeOptions where
  options : TcpOptions
  listenEndpoints : List (Address × Port)
  generatedListenEndpoints : List (Address × Port)
deriving DecidableEq, Repr

def plannedListener (generated : Bool) (endpoint : Address × Port) : BindEndpoint :=
  ⟨0, if endpoint.1.is4 then familyInet else familyInet6, endpoint.1, endpoint.2, false, 10,
    generated⟩

def plannedTCPListeners (value : TcpProbeOptions) : Result (List BindEndpoint) := do
  check ((value.listenEndpoints ++ value.generatedListenEndpoints).all (·.2 ≠ 0))
    "invalid planned TCP listener"
  return value.listenEndpoints.map (plannedListener false) ++
    value.generatedListenEndpoints.map (plannedListener true)

def parseTCPProbeOptions [Netip] (value : TcpProbeOptions) : Result Plan :=
  if bound : 64511 < value.options.tcpPortShift then
    .error "--tcp-port-shift must be in [1, 64511]"
  else do
    check (value.options.tcpPortShift ≠ 0) "--tcp-port-shift must be in [1, 64511]"
    check (value.options.tcpPreservePort ≤ 65535) "--tcp-preserve-port must be in [0, 65535]"
    check (value.options.tcpAddressMap ≠ []) "at least one --tcp-address-map is required"
    let mapping ← parseTCPAddressMap value.options.tcpAddressMap
    let portMapping ← parseTCPPortMap value.options.tcpPortMap
    let _ ← plannedTCPListeners value
    return ⟨mapping, value.options.tcpPortShift, value.options.tcpPreservePort, portMapping,
      value.options.tcpAllowEmptyMap, Nat.le_of_not_lt bound⟩

inductive BindOutcome where
  | bound
  | inUse
  | refused
deriving DecidableEq, Repr

/-- The network of the host: the range of its ephemeral ports, and what comes of binding a
fresh socket, which is closed again at once. -/
structure Host where
  ephemeral : Port × Port
  bind : BindKey → BindOutcome

def Host.probe (host : Host) (endpoint : BindEndpoint) : BindOutcome :=
  if endpoint.avoidEphemeral && decide (host.ephemeral.1 ≤ endpoint.port) &&
      decide (endpoint.port ≤ host.ephemeral.2) then .inUse
  else if endpoint.family = familyInet ∧ endpoint.address.is4 = true then host.bind endpoint.key
  else if endpoint.family = familyInet6 ∧ endpoint.address.is4 = false then
    host.bind endpoint.key
  else .refused

def probeTCPBindEndpoints (host : Host) : List BindEndpoint → BindOutcome
  | [] => .bound
  | endpoint :: rest =>
    match host.probe endpoint with
    | .bound => probeTCPBindEndpoints host rest
    | outcome => outcome

structure ProbeReceipt where
  portShift : Nat
  endpoints : Nat
  available : Bool
deriving DecidableEq, Repr

def probedEndpoints [Netip] (value : TcpProbeOptions) (image : Image) :
    Result (List BindEndpoint) := do
  let plan ← parseTCPProbeOptions value
  let rewriting ← rewriteTCPSocketEndpoints plan image
  let planned ← plannedTCPListeners value
  return rewriting.endpoints ++ planned

def runTCPProbe [Netip] (host : Host) (value : TcpProbeOptions) (image : Image) :
    Result ProbeReceipt := do
  let endpoints ← probedEndpoints value image
  let outcome := probeTCPBindEndpoints host endpoints
  check (outcome ≠ .refused) "TCP socket target is unavailable"
  return ⟨value.options.tcpPortShift, endpoints.length, outcome = .bound⟩

end Coldsnap.Placement
