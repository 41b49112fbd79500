import Coldsnap.Placement.Arguments
import Coldsnap.Placement.Texts

/-! # Connections between units

Each unit is rewritten alone. The two ends of a connection still name each other if both
units send its ports to the same ports, which depends on the ports they serve on.
-/

namespace Coldsnap.Placement

open Go Python Address List Netip

def localEndpoint (socket : InetSocket) : Option (Address × Port) :=
  (decodeCRIUAddress socket.srcAddr).map fun address => (address.unmap, socket.srcPort)

def remoteEndpoint (socket : InetSocket) : Option (Address × Port) :=
  (decodeCRIUAddress socket.dstAddr).map fun address => (address.unmap, socket.dstPort)

def Peers (left right : InetSocket) : Prop :=
  localEndpoint left = remoteEndpoint right ∧ remoteEndpoint left = localEndpoint right

section Units

variable [Netip]

def RankAddress (units : List LaunchUnit) (address : Address) : Prop :=
  ∃ unit ∈ units, rankPlacementAddress unit = .ok address

structure Connection (captured : List LaunchUnit) (left right : InetSocket) : Prop where
  leftTcp : left.proto = protoTCP
  rightTcp : right.proto = protoTCP
  peers : Peers left right
  sourceAddress : ∃ address, RankAddress captured address ∧
    localEndpoint left = some (address, left.srcPort)
  destinationAddress : ∃ address, RankAddress captured address ∧
    remoteEndpoint left = some (address, left.dstPort)

variable {captured requested : List LaunchUnit} {addressMapping : List String}

/-- An entry of the address map, of addresses as it writes them. -/
structure Entry (addressMapping : List String) (source target : Address) : Prop where
  plain : source.unmap = source
  targetPlain : target.unmap = target
  listed : mappingText source target ∈ addressMapping

variable (placed : placementTCPAddressMap captured requested = .ok addressMapping)

include placed

theorem placement_lengths : captured.length = requested.length := by
  simp only [placementTCPAddressMap, bind_eq_ok, check_eq_ok, decide_eq_true_eq] at placed
  rcases placed with ⟨_, lengths, _⟩
  exact lengths

theorem rankAddress_entry {address : Address} (known : RankAddress captured address) :
    ∃ target, Entry addressMapping address target := by
  rcases known with ⟨unit, member, found⟩
  have lengths := placement_lengths placed
  rcases mem_iff_getElem.mp member with ⟨index, bound, equal⟩
  have paired : (unit, requested[index]) ∈ captured.zip requested := by
    rw [mem_iff_getElem]
    refine ⟨index, by rw [length_zip]; omega, ?_⟩
    rw [getElem_zip, equal]
  rcases placement_listed placed paired with ⟨old, new, oldFound, newFound, listed⟩
  rw [found] at oldFound
  cases oldFound
  exact ⟨new, (rankPlacementAddress_ok found).1, (rankPlacementAddress_ok newFound).1, listed⟩

end Units

variable {socket : InetSocket}

theorem endpoints_described {source destination : Address}
    (described : Described socket source destination) :
    localEndpoint socket = some (source.unmap, socket.srcPort) ∧
      remoteEndpoint socket = some (destination.unmap, socket.dstPort) := by
  rw [localEndpoint, remoteEndpoint, described.source, described.destination, decode_words,
    decode_words]
  exact ⟨rfl, rfl⟩

theorem described_of_endpoints {first second : Address × Port}
    (source : localEndpoint socket = some first)
    (destination : remoteEndpoint socket = some second) :
    ∃ sourceAddress destinationAddress, Described socket sourceAddress destinationAddress ∧
      (sourceAddress.unmap, socket.srcPort) = first ∧
      (destinationAddress.unmap, socket.dstPort) = second := by
  rw [localEndpoint, Option.map_eq_some_iff] at source
  rw [remoteEndpoint, Option.map_eq_some_iff] at destination
  rcases source with ⟨sourceAddress, sourceDecoded, rfl⟩
  rcases destination with ⟨destinationAddress, destinationDecoded, rfl⟩
  exact ⟨sourceAddress, destinationAddress,
    ⟨words_of_decode sourceDecoded, words_of_decode destinationDecoded⟩, rfl, rfl⟩

theorem rewritten_endpoints {plan : Plan} {mappedPorts : List Port}
    {source destination sourceTarget destinationTarget : Address}
    (sourceMapped : plan.mapping.lookup source.unmap = some sourceTarget)
    (destinationMapped : plan.mapping.lookup destination.unmap = some destinationTarget) :
    localEndpoint (plan.rewritten mappedPorts socket source destination) =
        some (sourceTarget, plan.port true socket.srcPort) ∧
      remoteEndpoint (plan.rewritten mappedPorts socket source destination) =
        some (destinationTarget, plan.port true socket.dstPort) := by
  have sourceMaps := Plan.maps_iff.mpr ⟨_, sourceMapped⟩
  have destinationMaps := Plan.maps_iff.mpr ⟨_, destinationMapped⟩
  have described : Described (plan.rewritten mappedPorts socket source destination)
      (plan.address source) (plan.address destination) := ⟨rfl, rfl⟩
  rcases endpoints_described described with ⟨sourceEnds, destinationEnds⟩
  rw [sourceEnds, destinationEnds, Plan.address_unmap, Plan.address_unmap, sourceMapped,
    destinationMapped]
  simp [Plan.rewritten, Plan.localPort, Plan.rotatesLocal, sourceMaps, destinationMaps]

/-! ## Serving ports -/

theorem restoredPort_stays {args : RankArguments} (stays : args.capturedHttpPort = args.httpPort)
    (port : Port) : args.restoredPort port =
      if port = args.httpPort then port else rotatePortableTCPPort port args.tcpPortShift := by
  rw [RankArguments.restoredPort, stays]
  split
  · next serves => exact serves.symm
  · rfl

/-- Where serving ports stay, the units agree on a port unless it serves only one of them. -/
theorem restoredPort_preserved {left right : RankArguments} {shift : Nat}
    (leftStays : left.capturedHttpPort = left.httpPort)
    (rightStays : right.capturedHttpPort = right.httpPort)
    (leftShift : left.tcpPortShift = shift) (rightShift : right.tcpPortShift = shift)
    (positive : 1 ≤ shift) (bound : shift ≤ 64511) (port : Port) :
    left.restoredPort port = right.restoredPort port ↔
      (1024 ≤ port.val → (port = left.httpPort ↔ port = right.httpPort)) := by
  have moves : port ≠ rotatePortableTCPPort port shift ↔ 1024 ≤ port.val :=
    ⟨fun moved => Nat.le_of_not_lt fun low => moved (rotate_privileged low shift).symm,
      fun high => (rotate_ne high positive bound).symm⟩
  rw [restoredPort_stays leftStays, restoredPort_stays rightStays, leftShift, rightShift, ← moves]
  split <;> split <;> grind

/-- A unit takes a port out of the rotation: its captured serving port, where the requested one
is not where the rotation would send it. -/
def RankArguments.Spares (args : RankArguments) (port : Port) : Prop :=
  port = args.capturedHttpPort ∧ args.httpPort ≠ rotatePortableTCPPort port args.tcpPortShift

theorem restoredPort_eq_iff {left right : RankArguments} {shift : Nat}
    (leftShift : left.tcpPortShift = shift) (rightShift : right.tcpPortShift = shift)
    (port : Port) :
    left.restoredPort port = right.restoredPort port ↔
      (left.Spares port ∨ right.Spares port →
        left.capturedHttpPort = right.capturedHttpPort ∧ left.httpPort = right.httpPort) := by
  unfold RankArguments.restoredPort RankArguments.Spares
  rw [leftShift, rightShift]
  split <;> split <;> grind

/-- Where the policy fixes the shift, it sends the serving port with all others. -/
theorem restoredPort_fixed {args : RankArguments} {shift : Nat} {pair : UnitPair}
    (fits : PortPolicy.Fits shift pair) (shifted : args.tcpPortShift = shift)
    (captured : args.capturedHttpPort = httpPort pair.1.command)
    (requested : args.httpPort = httpPort pair.2.command) (port : Port) :
    args.restoredPort port = rotatePortableTCPPort port shift := by
  rw [RankArguments.restoredPort, captured, requested, shifted]
  split
  · rename_i serves
    rw [serves]
    by_cases high : 1024 ≤ (httpPort pair.1.command).val
    · exact (Fits.rotates fits high).symm
    · have low := Nat.lt_of_not_le high
      rw [rotate_privileged low, fits.1 (.inl low)]
  · rfl

/-! ## Connections after a restore -/

/-- A unit which is restored: the arguments of its rank, the options its controller passes on,
and what they make of its image. -/
structure RestoredUnit [Netip] (addressMapping : List String) (shift : Nat) where
  pair : UnitPair
  driver : Driver
  args : RankArguments
  plan : Plan
  image : Image
  rewriting : Rewriting
  restoring : Restoring driver addressMapping shift pair args plan
  done : rewriteTCPSocketEndpoints plan image = .ok rewriting

section Restored

variable [Netip] {captured requested : List LaunchUnit} {addressMapping : List String} {shift : Nat}

theorem RestoredUnit.endpoints (unit : RestoredUnit addressMapping shift)
    {source sourceTarget destination destinationTarget : Address}
    {sourcePort destinationPort : Port} (sourceEntry : Entry addressMapping source sourceTarget)
    (destinationEntry : Entry addressMapping destination destinationTarget) {index : Nat}
    (found : unit.image[index]? = some socket) (tcp : socket.proto = protoTCP)
    (here : localEndpoint socket = some (source, sourcePort))
    (there : remoteEndpoint socket = some (destination, destinationPort)) :
    ∃ restored, unit.rewriting.image[index]? = some restored ∧
      localEndpoint restored = some (sourceTarget, unit.args.restoredPort sourcePort) ∧
      remoteEndpoint restored =
        some (destinationTarget, unit.args.restoredPort destinationPort) := by
  have mapped := ne_nil_of_mem sourceEntry.listed
  have follows := unit.restoring.follows mapped
  have lookup : ∀ {old new}, Entry addressMapping old new →
      unit.plan.mapping.lookup old = some new := by
    intro old new entry
    have known := unit.restoring.lookup mapped entry.listed
    rwa [entry.plain, entry.targetPlain] at known
  rcases described_of_endpoints here there with ⟨first, second, described, atHere, atThere⟩
  rw [Prod.mk.injEq] at atHere atThere
  have ends := @rewritten_endpoints socket unit.plan (mappedLocalPorts unit.plan.mapping unit.image)
    first second sourceTarget destinationTarget
    (by rw [atHere.1]; exact lookup sourceEntry) (by rw [atThere.1]; exact lookup destinationEntry)
  rw [follows.mapped_port, follows.mapped_port, atHere.2, atThere.2] at ends
  exact ⟨_, rewrite_socket unit.done found tcp described, ends⟩

variable (placed : placementTCPAddressMap captured requested = .ok addressMapping)
  {left right : RestoredUnit addressMapping shift} {leftIndex rightIndex : Nat}
  {leftSocket rightSocket : InetSocket} (leftFound : left.image[leftIndex]? = some leftSocket)
  (rightFound : right.image[rightIndex]? = some rightSocket)
  (connection : Connection captured leftSocket rightSocket)

include placed leftFound rightFound connection

/-- The two ends of a connection name each other after the restore exactly if both units send
each of its ports to the same port. -/
theorem restored_peers_iff :
    ∃ leftRestored rightRestored, left.rewriting.image[leftIndex]? = some leftRestored ∧
      right.rewriting.image[rightIndex]? = some rightRestored ∧
      (Peers leftRestored rightRestored ↔
        left.args.restoredPort leftSocket.srcPort = right.args.restoredPort leftSocket.srcPort ∧
        left.args.restoredPort leftSocket.dstPort =
          right.args.restoredPort leftSocket.dstPort) := by
  rcases connection.sourceAddress with ⟨source, sourceKnown, sourceEnds⟩
  rcases connection.destinationAddress with ⟨destination, destinationKnown, destinationEnds⟩
  have peers := connection.peers
  rw [Peers, sourceEnds, destinationEnds] at peers
  rcases rankAddress_entry placed sourceKnown with ⟨sourceTarget, sourceEntry⟩
  rcases rankAddress_entry placed destinationKnown with ⟨destinationTarget, destinationEntry⟩
  rcases left.endpoints sourceEntry destinationEntry leftFound connection.leftTcp sourceEnds
    destinationEnds with ⟨leftRestored, leftHere, leftLocal, leftRemote⟩
  rcases right.endpoints destinationEntry sourceEntry rightFound connection.rightTcp peers.2.symm
    peers.1.symm with ⟨rightRestored, rightHere, rightLocal, rightRemote⟩
  refine ⟨leftRestored, rightRestored, leftHere, rightHere, ?_⟩
  rw [Peers, leftLocal, leftRemote, rightLocal, rightRemote]
  simp

/-- The two ends of a connection name each other after the restore exactly if no unit takes
one of its ports out of the rotation which does not serve the other unit alike. If the rank
controllers read the captured ports as the adapter does, the ends part only under a policy which
preserves the ports, at an unprivileged port which serves one of the units. -/
theorem connection_restored_iff {policy : PortPolicy}
    (accepted : portableHTTPPortPolicy captured requested = .ok policy)
    (allowed : policy.Allows shift) (leftMember : left.pair ∈ captured.zip requested)
    (rightMember : right.pair ∈ captured.zip requested) :
    ∃ leftRestored rightRestored, left.rewriting.image[leftIndex]? = some leftRestored ∧
      right.rewriting.image[rightIndex]? = some rightRestored ∧
      (Peers leftRestored rightRestored ↔ ∀ port ∈ [leftSocket.srcPort, leftSocket.dstPort],
        left.args.Spares port ∨ right.args.Spares port →
          left.args.capturedHttpPort = right.args.capturedHttpPort ∧
            left.args.httpPort = right.args.httpPort) ∧
      (left.args.capturedHttpPort = httpPort left.pair.1.command →
        right.args.capturedHttpPort = httpPort right.pair.1.command →
        (Peers leftRestored rightRestored ↔ (policy.preserve = true →
          ∀ port ∈ [leftSocket.srcPort, leftSocket.dstPort], 1024 ≤ port.val →
            (port = httpPort left.pair.2.command ↔ port = httpPort right.pair.2.command)))) := by
  rcases restored_peers_iff placed leftFound rightFound connection with
    ⟨leftRestored, rightRestored, leftEnds, rightEnds, agree⟩
  rcases left.restoring.arguments with ⟨_, leftShift, leftPort, _⟩
  rcases right.restoring.arguments with ⟨_, rightShift, rightPort, _⟩
  refine ⟨leftRestored, rightRestored, leftEnds, rightEnds, ?_, ?_⟩
  · have each := restoredPort_eq_iff leftShift rightShift
    simp only [agree, each, forall_mem_cons, not_mem_nil, false_imp_iff, implies_true, and_true]
  intro leftRead rightRead
  rcases policy_fits accepted with ⟨fits, preserves⟩
  cases preserved : policy.preserve with
  | true =>
    rw [PortPolicy.Allows, preserved, if_pos rfl] at allowed
    rw [preserves.mp preserved] at fits
    have each := restoredPort_preserved
      (leftRead.trans ((Fits.stays (fits left.pair leftMember)).trans leftPort.symm))
      (rightRead.trans ((Fits.stays (fits right.pair rightMember)).trans rightPort.symm))
      leftShift rightShift allowed.1 allowed.2
    simp only [agree, each, leftPort, rightPort, forall_mem_cons, not_mem_nil, false_imp_iff,
      implies_true, and_true, forall_true_left]
  | false =>
    rw [PortPolicy.Allows, preserved, if_neg Bool.false_ne_true] at allowed
    rw [← allowed] at fits
    have alike : ∀ port, left.args.restoredPort port = right.args.restoredPort port := by
      intro port
      rw [restoredPort_fixed (fits left.pair leftMember) leftShift leftRead leftPort,
        restoredPort_fixed (fits right.pair rightMember) rightShift rightRead rightPort]
    exact iff_of_true (agree.mpr ⟨alike _, alike _⟩) fun never => absurd never Bool.false_ne_true

end Restored

/-! ## Two units -/

def restoreImage [Netip] (driver : Driver) (addressMapping : List String) (shift : Nat)
    (pair : UnitPair) (image : Image) : Option Image := do
  let args ← (rankArguments addressMapping shift pair).toOption
  let plan ← (parseOptions (criuCommand driver args)).toOption
  let rewriting ← (rewriteTCPSocketEndpoints plan image).toOption
  return rewriting.image

theorem restoreImage_ok [Netip] {driver : Driver} {addressMapping : List String} {shift : Nat}
    {pair : UnitPair} {args : RankArguments} {image restored : Image}
    (read : rankArguments addressMapping shift pair = .ok args)
    (returned : restoreImage driver addressMapping shift pair image = some restored) :
    ∃ unit : RestoredUnit addressMapping shift, unit.pair = pair ∧ unit.args = args ∧
      unit.image = image ∧ unit.rewriting.image = restored := by
  simp only [restoreImage, read, Except.toOption, Option.bind_eq_bind, Option.bind_some] at returned
  cases parsed : parseOptions (criuCommand driver args) with
  | error message => simp [parsed] at returned
  | ok plan =>
    cases done : rewriteTCPSocketEndpoints plan image with
    | error message => simp [parsed, done] at returned
    | ok rewriting =>
      exact ⟨⟨pair, driver, args, plan, image, rewriting, ⟨read, parsed⟩, done⟩, rfl, rfl, rfl,
        by simpa [parsed, done] using returned⟩

def servingUnit (index : Nat) (host : String) (port : String) : LaunchUnit :=
  ⟨"unit-" ++ toString index, index, host, [], ["vllm", "serve", "--port", port]⟩

def connected (id : Nat) (source : Address) (sourcePort : Port) (destination : Address)
    (destinationPort : Port) : InetSocket :=
  ⟨id, familyInet, protoTCP, 1, source.words, destination.words, sourcePort, destinationPort, false⟩

def hostAddress (number : UInt32) : Address := .ip4 (0x0000000A + 0x01000000 * number)

/-- A unit which moves from 10.0.0.1 to 10.0.0.3. -/
def firstAt (captured requested : String) : UnitPair :=
  (servingUnit 0 "10.0.0.1" captured, servingUnit 0 "10.0.0.3" requested)

/-- A unit which moves from 10.0.0.2 to 10.0.0.4. -/
def secondAt (captured requested : String) : UnitPair :=
  (servingUnit 1 "10.0.0.2" captured, servingUnit 1 "10.0.0.4" requested)

def twoMapping : List String := ["10.0.0.1=10.0.0.3", "10.0.0.2=10.0.0.4"]

def clientSocket : InetSocket := connected 2 (hostAddress 2) 40000 (hostAddress 1) 8000

def serverSocket : InetSocket := connected 1 (hostAddress 1) 8000 (hostAddress 2) 40000

/-- Both units serve on port 8000. -/
theorem connection_restored_same :
    @restoreImage expanded .n610 twoMapping 100 (firstAt "8000" "8000") [serverSocket] =
      some [connected 1 (hostAddress 3) 8000 (hostAddress 4) 40100] ∧
    @restoreImage expanded .n610 twoMapping 100 (secondAt "8000" "8000") [clientSocket] =
      some [connected 2 (hostAddress 4) 40100 (hostAddress 3) 8000] ∧
    Peers (connected 1 (hostAddress 3) 8000 (hostAddress 4) 40100)
      (connected 2 (hostAddress 4) 40100 (hostAddress 3) 8000) := by
  let := expanded
  let first := firstAt "8000" "8000"
  let second := secondAt "8000" "8000"
  have read : ∀ pair ∈ [first, second], rankArguments twoMapping 100 pair =
      .ok ⟨twoMapping, 100, 8000, 8000⟩ := by decide +kernel
  have placed : placementTCPAddressMap [first.1, second.1] [first.2, second.2] =
      .ok twoMapping := by decide +kernel
  have accepted : portableHTTPPortPolicy [first.1, second.1] [first.2, second.2] =
      .ok ⟨0, true⟩ := by decide +kernel
  have leftImage : restoreImage .n610 twoMapping 100 first [serverSocket] =
      some [connected 1 (hostAddress 3) 8000 (hostAddress 4) 40100] := by decide +kernel
  have rightImage : restoreImage .n610 twoMapping 100 second [clientSocket] =
      some [connected 2 (hostAddress 4) 40100 (hostAddress 3) 8000] := by decide +kernel
  rcases restoreImage_ok (read first mem_cons_self) leftImage with
    ⟨left, leftPair, leftArgs, leftBefore, leftEnds⟩
  rcases restoreImage_ok (read second (mem_cons_of_mem _ mem_cons_self)) rightImage with
    ⟨right, rightPair, rightArgs, rightBefore, rightEnds⟩
  have leftFound : left.image[0]? = some serverSocket := by
    rw [leftBefore]
    rfl
  have rightFound : right.image[0]? = some clientSocket := by
    rw [rightBefore]
    rfl
  have connection : Connection [first.1, second.1] serverSocket clientSocket :=
    { leftTcp := rfl
      rightTcp := rfl
      peers := by unfold Peers; decide +kernel
      sourceAddress := ⟨hostAddress 1, ⟨first.1, mem_cons_self, by decide +kernel⟩,
        by decide +kernel⟩
      destinationAddress := ⟨hostAddress 2, ⟨second.1, mem_cons_of_mem _ mem_cons_self,
        by decide +kernel⟩, by decide +kernel⟩ }
  rcases connection_restored_iff placed leftFound rightFound connection accepted
      (by decide : 1 ≤ 100 ∧ 100 ≤ 64511) (by rw [leftPair]; exact mem_cons_self)
      (by rw [rightPair]; exact mem_cons_of_mem _ mem_cons_self) with
    ⟨leftRestored, rightRestored, leftHere, rightHere, agree, _⟩
  rw [leftEnds] at leftHere
  rw [rightEnds] at rightHere
  cases leftHere
  cases rightHere
  refine ⟨leftImage, rightImage, agree.mpr fun _ _ _ => ?_⟩
  rw [leftArgs, rightArgs]
  exact ⟨rfl, rfl⟩

/-- The first unit preserves port 8000, which the second one rotates. -/
theorem connection_torn :
    let first := firstAt "8000" "8000"
    let second := secondAt "8001" "8001"
    @placementTCPAddressMap expanded [first.1, second.1] [first.2, second.2] = .ok twoMapping ∧
    portableHTTPPortPolicy [first.1, second.1] [first.2, second.2] = .ok ⟨0, true⟩ ∧
    @restoreImage expanded .n610 twoMapping 100 first [serverSocket] =
      some [connected 1 (hostAddress 3) 8000 (hostAddress 4) 40100] ∧
    @restoreImage expanded .n610 twoMapping 100 second [clientSocket] =
      some [connected 2 (hostAddress 4) 40100 (hostAddress 3) 8100] := by
  decide +kernel

end Coldsnap.Placement
