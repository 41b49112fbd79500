import Coldsnap.Placement.Sockets
import Mathlib.Algebra.Order.BigOperators.Group.List

/-! # What the rewriting does to a socket

Addresses and ports are rewritten independently, and the local endpoint of a socket
becomes a function of its address and port.
-/

namespace Coldsnap.Placement

open Go Address List

/-! ## Addresses -/

/-- An address in the form of another one: an IPv4 address in an IPv6 socket is written as
`::ffff:a.b.c.d`. -/
def Address.inFormOf : Address → Address → Address
  | .ip4 word, .ip6 .. => .ip6 0 0 mappedMark word
  | address, _ => address

theorem unmap_inFormOf {address : Address} (plain : address.unmap = address) (form : Address) :
    (address.inFormOf form).unmap = address := by
  cases address with
  | ip4 word =>
    cases form with
    | ip4 other => rfl
    | ip6 first second third fourth =>
      simp [Address.inFormOf, Address.unmap]
  | ip6 first second third fourth => exact plain

def Plan.maps (plan : Plan) (address : Address) : Bool :=
  (plan.mapping.lookup address.unmap).isSome

def Plan.address (plan : Plan) (address : Address) : Address :=
  match plan.mapping.lookup address.unmap with
  | none => address
  | some target => target.inFormOf address

variable {plan : Plan} {address target : Address}

theorem Plan.address_mapped (found : plan.mapping.lookup address.unmap = some target) :
    plan.address address = target.inFormOf address := by
  rw [Plan.address, found]

theorem Plan.address_unmapped (absent : plan.maps address = false)
    : plan.address address = address := by
  rw [Plan.maps, Option.isSome_eq_false_iff, Option.isNone_iff_eq_none] at absent
  rw [Plan.address, absent]

theorem Plan.maps_iff :
    plan.maps address = true ↔ ∃ target, plan.mapping.lookup address.unmap = some target := by
  rw [Plan.maps, Option.isSome_iff_exists]

theorem Plan.address_unmap (address : Address) :
    (plan.address address).unmap = (plan.mapping.lookup address.unmap).getD address.unmap := by
  unfold Plan.address
  split
  · rename_i absent
    rw [absent]
    rfl
  · rename_i target found
    rw [found]
    exact unmap_inFormOf (AddressMap.lookup_unmapped found).2.1 address

def Address.words : Address → List UInt32
  | .ip4 word => [word]
  | .ip6 first second third fourth => [first, second, third, fourth]

@[simp] theorem decode_words (address : Address) :
    decodeCRIUAddress address.words = some address := by
  cases address <;> rfl

theorem eq_of_words {other : Address} (same : address.words = other.words) : address = other := by
  have decoded : some address = some other := by rw [← decode_words, same, decode_words]
  exact Option.some.inj decoded

theorem words_of_decode {parts : List UInt32}
    (decoded : decodeCRIUAddress parts = some address) : parts = address.words := by
  unfold decodeCRIUAddress at decoded
  split at decoded
  · cases decoded
    rfl
  · cases decoded
    rfl
  · cases decoded

/-- No address of the map is refused by the form of the socket. -/
theorem encode_inFormOf (family : address.unmap.is4 = target.is4) :
    encodeCRIUAddress target address.words.length = .ok (target.inFormOf address).words := by
  cases address with
  | ip4 word =>
    cases target with
    | ip4 other => rfl
    | ip6 first second third fourth => cases family
  | ip6 first second third fourth => cases target <;> rfl

theorem remap_eq (plan : Plan) (address : Address) :
    remapCRIUAddress address.words plan.mapping =
      .ok ((plan.address address).words, plan.maps address) := by
  simp only [remapCRIUAddress, decode_words]
  cases found : plan.mapping.lookup address.unmap with
  | none =>
    have absent : plan.maps address = false := by
      rw [Plan.maps, found]
      rfl
    rw [Plan.address_unmapped absent, absent]
  | some target =>
    have family := (AddressMap.lookup_unmapped found).2.2
    have present := Plan.maps_iff.mpr ⟨target, found⟩
    simp only [encode_inFormOf family]
    rw [Plan.address_mapped found, present]
    rfl

theorem remap_ok {parts : List UInt32} {mapping : AddressMap} {result : List UInt32 × Bool}
    (remapped : remapCRIUAddress parts mapping = .ok result) :
    ∃ address : Address, parts = address.words := by
  rw [remapCRIUAddress] at remapped
  split at remapped
  · cases remapped
  · rename_i address decoded
    exact ⟨address, words_of_decode decoded⟩

/-! ## Ports -/

def Plan.port (plan : Plan) (applies : Bool) (port : Port) : Port :=
  if (exchangePort plan.portMapping port).2 then (exchangePort plan.portMapping port).1
  else (plan.rotate applies port).1

def Plan.rotatesLocal (plan : Plan) (mappedPorts : List Port) (address : Address) (port : Port) :
    Bool :=
  plan.maps address ||
    (address.isUnspecified && decide ((exchangePort plan.portMapping port).1 ∈ mappedPorts))

variable {port : Port}

theorem exchangePort_unchanged {mapping : Option PortMapping}
    (other : (exchangePort mapping port).2 = false) : (exchangePort mapping port).1 = port := by
  cases mapping with
  | none => rfl
  | some mapping =>
    unfold exchangePort at other ⊢
    simp only at other ⊢
    split
    · rename_i same
      rw [if_pos same] at other
      cases other
    · rfl

theorem Plan.port_eq (plan : Plan) (applies : Bool) (port : Port) :
    (plan.rotate (applies && !(exchangePort plan.portMapping port).2)
      (exchangePort plan.portMapping port).1).1 = plan.port applies port := by
  unfold Plan.port
  cases exchanged : (exchangePort plan.portMapping port).2 with
  | true => simp [Plan.rotate]
  | false =>
    rw [exchangePort_unchanged exchanged]
    simp

theorem Plan.rotate_applied (unspared : 1024 ≤ port.val → port.val ≠ plan.preservePort) :
    (plan.rotate true port).1 = rotatePortableTCPPort port plan.portShift := by
  unfold Plan.rotate
  by_cases still : plan.portShift = 0
  · rw [if_neg (fun both => both.1 still), still, rotate_zero]
  by_cases low : port.val < 1024
  · rw [if_neg (fun both => absurd both.2.2.1 (Nat.not_le_of_lt low)), rotate_privileged low]
  · have high := Nat.le_of_not_lt low
    rw [if_pos ⟨still, rfl, high, unspared high⟩]

/-! ## Sockets -/

structure Described (socket : InetSocket) (source destination : Address) : Prop where
  source : socket.srcAddr = source.words
  destination : socket.dstAddr = destination.words

section Sockets

variable (plan : Plan) (mappedPorts : List Port)

def Plan.rebinds (address : Address) (port : Port) : Bool :=
  plan.rotatesLocal mappedPorts address port || (exchangePort plan.portMapping port).2

def Plan.localPort (address : Address) (port : Port) : Port :=
  plan.port (plan.rotatesLocal mappedPorts address port) port

def Plan.rewritten (socket : InetSocket) (source destination : Address) : InetSocket :=
  { socket with
    srcAddr := (plan.address source).words
    dstAddr := (plan.address destination).words
    srcPort := plan.localPort mappedPorts source socket.srcPort
    dstPort := plan.port (plan.maps destination) socket.dstPort }

def Plan.bound (socket : InetSocket) (source : Address) : Option BindEndpoint :=
  if plan.rebinds mappedPorts source socket.srcPort ∧
      plan.localPort mappedPorts source socket.srcPort ≠ 0 then
    some ⟨socket.id, socket.family, plan.address source,
      plan.localPort mappedPorts source socket.srcPort, socket.v6Only, socket.state, false⟩
  else none

end Sockets

theorem Plan.address_unspecified (absent : plan.maps address = false) :
    (decodeCRIUAddress (plan.address address).words).any isUnspecified = address.isUnspecified := by
  rw [Plan.address_unmapped absent, decode_words]
  rfl

variable {socket : InetSocket} {source destination : Address}

theorem rewriteSocket_tcp (plan : Plan) (mappedPorts : List Port)
    (described : Described socket source destination) (tcp : socket.proto = protoTCP) :
    ∃ result, rewriteSocket plan mappedPorts socket = .ok result ∧
      result.socket = plan.rewritten mappedPorts socket source destination ∧
      result.endpoint = plan.bound mappedPorts socket source ∧
      result.addressChanges = (plan.maps source).toNat + (plan.maps destination).toNat := by
  have rotates : (plan.maps source ||
      (decodeCRIUAddress (plan.address source).words).any isUnspecified &&
        decide ((exchangePort plan.portMapping socket.srcPort).1 ∈ mappedPorts)) =
      plan.rotatesLocal mappedPorts source socket.srcPort := by
    rw [Plan.rotatesLocal]
    cases present : plan.maps source with
    | true => rfl
    | false => rw [Plan.address_unspecified present]
  have sourcePort := plan.port_eq (plan.rotatesLocal mappedPorts source socket.srcPort)
    socket.srcPort
  have destinationPort := plan.port_eq (plan.maps destination) socket.dstPort
  have sent := decide_eq_true tcp
  simp only [rewriteSocket, described.source, described.destination, remap_eq, sent, bind,
    Except.bind, check, Bool.or_true, if_true, Bool.true_and, rotates, sourcePort,
    destinationPort, Bool.not_true, Bool.false_or]
  have guard : (!plan.rotatesLocal mappedPorts source socket.srcPort &&
      !(exchangePort plan.portMapping socket.srcPort).2 ||
        decide (plan.localPort mappedPorts source socket.srcPort = 0)) =
      !decide (plan.rebinds mappedPorts source socket.srcPort = true ∧
        plan.localPort mappedPorts source socket.srcPort ≠ 0) := by
    rw [Plan.rebinds]
    cases plan.rotatesLocal mappedPorts source socket.srcPort <;>
      cases (exchangePort plan.portMapping socket.srcPort).2 <;> simp
  rw [Plan.localPort] at guard
  rw [guard]
  by_cases binds : plan.rebinds mappedPorts source socket.srcPort = true ∧
      plan.localPort mappedPorts source socket.srcPort ≠ 0
  · rw [Plan.bound, if_pos binds]
    rw [Plan.localPort] at binds
    exact ⟨_, (if_neg (by simp [binds])).trans (by rw [decode_words]; rfl), rfl, rfl, rfl⟩
  · rw [Plan.bound, if_neg binds]
    rw [Plan.localPort] at binds
    exact ⟨_, if_pos (by rw [decide_eq_false binds]; rfl), rfl, rfl, rfl⟩

variable {result : RewrittenSocket} {mappedPorts : List Port}

theorem rewriteSocket_described (rewritten : rewriteSocket plan mappedPorts socket = .ok result) :
    ∃ source destination, Described socket source destination := by
  simp only [rewriteSocket, bind_eq_ok] at rewritten
  rcases rewritten with ⟨_, source, _, destination, _⟩
  rcases remap_ok source with ⟨sourceAddress, sourceWords⟩
  rcases remap_ok destination with ⟨destinationAddress, destinationWords⟩
  exact ⟨sourceAddress, destinationAddress, ⟨sourceWords, destinationWords⟩⟩

/-- No address of another socket is mapped, but its ports are exchanged. -/
theorem rewriteSocket_other (other : socket.proto ≠ protoTCP)
    (rewritten : rewriteSocket plan mappedPorts socket = .ok result) :
    result.endpoint = none ∧ result.socket =
      { socket with
        srcPort := (exchangePort plan.portMapping socket.srcPort).1
        dstPort := (exchangePort plan.portMapping socket.dstPort).1 } := by
  rcases rewriteSocket_described rewritten with ⟨source, destination, described⟩
  simp only [rewriteSocket, described.source, described.destination, remap_eq, bind_eq_ok,
    Except.ok.injEq, exists_eq_left', check_eq_ok, decide_eq_false other, Bool.or_false,
    Bool.not_eq_true', Bool.or_eq_false_iff, Bool.not_false, Bool.true_or, Bool.false_and,
    if_true, pure_eq_ok] at rewritten
  rcases rewritten with ⟨_, absent, equal⟩
  rw [← equal, Plan.address_unmapped absent.1, Plan.address_unmapped absent.2,
    ← described.source, ← described.destination]
  simp [Plan.rotate]

theorem Described.unique {source' destination' : Address}
    (first : Described socket source destination) (second : Described socket source' destination') :
    source = source' ∧ destination = destination' :=
  ⟨eq_of_words (first.source.symm.trans second.source),
    eq_of_words (first.destination.symm.trans second.destination)⟩

/-! ## Images -/

variable {image : Image} {rewriting : Rewriting}

variable {endpoints : List BindEndpoint}

theorem mem_distinctEndpoints {key : BindKey} :
    ∀ {seen : List BindKey}, key ∉ seen →
      (key ∈ (distinctEndpoints seen endpoints).map BindEndpoint.key ↔
        key ∈ endpoints.map BindEndpoint.key) := by
  induction endpoints with
  | nil => exact fun _ => .rfl
  | cons endpoint endpoints induction =>
    intro seen fresh
    rw [distinctEndpoints, map_cons, mem_cons]
    by_cases known : endpoint.key ∈ seen
    · have other : key ≠ endpoint.key := fun equal => fresh (equal ▸ known)
      rw [if_pos known, induction fresh]
      simp [other]
    · rw [if_neg known, map_cons, mem_cons]
      by_cases same : key = endpoint.key
      · simp [same]
      · have later : key ∉ endpoint.key :: seen := by
          simp [same, fresh]
        rw [induction later]

section

variable (done : rewriteTCPSocketEndpoints plan image = .ok rewriting)

include done

theorem rewrite_ok :
    ∃ sockets, Forall₂ (fun socket result =>
        rewriteSocket plan (mappedLocalPorts plan.mapping image) socket = .ok result)
        image sockets ∧
      rewriting.image = sockets.map RewrittenSocket.socket ∧
      rewriting.endpoints = distinctEndpoints [] (sockets.filterMap RewrittenSocket.endpoint) := by
  simp only [rewriteTCPSocketEndpoints, bind_eq_ok, pure_eq_ok] at done
  rcases done with ⟨sockets, rewritten, _, _, equal⟩
  rw [← equal]
  exact ⟨sockets, mapEach_eq_ok.mp rewritten, rfl, rfl⟩

theorem rewrite_socket {index : Nat} (found : image[index]? = some socket)
    (tcp : socket.proto = protoTCP) (described : Described socket source destination) :
    rewriting.image[index]? =
      some (plan.rewritten (mappedLocalPorts plan.mapping image) socket source destination) := by
  rcases rewrite_ok done with ⟨sockets, related, rewritten, _⟩
  rcases rewriteSocket_tcp plan (mappedLocalPorts plan.mapping image) described tcp with
    ⟨result, computed, becomes, _⟩
  have present : index < image.length := (List.getElem?_eq_some_iff.mp found).1
  have same : index < sockets.length := related.length_eq ▸ present
  have there := related.get present same
  simp only [get_eq_getElem, (List.getElem?_eq_some_iff.mp found).2, computed] at there
  rw [rewritten, List.getElem?_map, List.getElem?_eq_getElem same, ← Except.ok.inj there,
    Option.map_some, becomes]

theorem rewrite_endpoints (key : BindKey) :
    key ∈ rewriting.endpoints.map BindEndpoint.key ↔
      ∃ socket ∈ image, ∃ source destination endpoint, Described socket source destination ∧
        socket.proto = protoTCP ∧
        plan.bound (mappedLocalPorts plan.mapping image) socket source = some endpoint ∧
        endpoint.key = key := by
  rcases rewrite_ok done with ⟨sockets, related, -, endpoints⟩
  rw [endpoints, mem_distinctEndpoints not_mem_nil]
  generalize mappedLocalPorts plan.mapping image = mappedPorts at related ⊢
  clear endpoints done
  induction related with
  | nil => simp
  | @cons socket result image sockets head tail induction =>
    rcases rewriteSocket_described head with ⟨source, destination, described⟩
    have here : (∃ endpoint, result.endpoint = some endpoint ∧ endpoint.key = key) ↔
        ∃ source destination endpoint, Described socket source destination ∧
          socket.proto = protoTCP ∧ plan.bound mappedPorts socket source = some endpoint ∧
          endpoint.key = key := by
      by_cases tcp : socket.proto = protoTCP
      · rcases rewriteSocket_tcp plan mappedPorts described tcp with ⟨other, computed, _, bound, _⟩
        rw [head] at computed
        rw [Except.ok.inj computed, bound]
        constructor
        · intro ⟨endpoint, binds, same⟩
          exact ⟨source, destination, endpoint, described, tcp, binds, same⟩
        · intro ⟨source', destination', endpoint, described', _, binds, same⟩
          rw [← (described.unique described').1] at binds
          exact ⟨endpoint, binds, same⟩
      · rw [(rewriteSocket_other tcp head).1]
        constructor
        · intro ⟨endpoint, binds, _⟩
          cases binds
        · intro ⟨_, _, _, _, other, _⟩
          exact absurd other tcp
    rw [exists_mem_cons_iff, ← here, ← induction]
    cases bound : result.endpoint with
    | none => simp [bound]
    | some endpoint => simp [bound, eq_comm]

end

theorem rewrite_succeeds (plan : Plan) (described : ∀ socket ∈ image, socket.proto = protoTCP ∧
      ∃ source destination, Described socket source destination)
    (mapped : ∃ socket ∈ image, ∃ source destination, Described socket source destination ∧
      plan.maps source = true) :
    ∃ rewriting, rewriteTCPSocketEndpoints plan image = .ok rewriting := by
  have each : ∀ sockets : Image, (∀ socket ∈ sockets, socket ∈ image) →
      ∃ results, mapEach (rewriteSocket plan (mappedLocalPorts plan.mapping image)) sockets =
        .ok results := by
    intro sockets within
    induction sockets with
    | nil => exact ⟨[], rfl⟩
    | cons socket sockets induction =>
      rcases described socket (within socket mem_cons_self) with
        ⟨tcp, source, destination, known⟩
      rcases rewriteSocket_tcp plan (mappedLocalPorts plan.mapping image) known tcp with
        ⟨result, computed, _⟩
      rcases induction (forall_mem_cons.mp within).2 with ⟨results, rest⟩
      exact ⟨result :: results, mapEach_eq_ok.mpr (.cons computed (mapEach_eq_ok.mp rest))⟩
  rcases each image fun _ member => member with ⟨results, computed⟩
  have changed : (results.map RewrittenSocket.addressChanges).sum ≠ 0 := by
    rcases mapped with ⟨socket, member, source, destination, known, present⟩
    rcases rewriteSocket_tcp plan (mappedLocalPorts plan.mapping image) known
      (described socket member).1 with ⟨result, rewritten, _, _, changes⟩
    rw [present] at changes
    rcases Python.Checked.exists_of_forall₂ (mapEach_eq_ok.mp computed) member with
      ⟨other, listed, same⟩
    rw [rewritten] at same
    cases same
    have positive : 0 < result.addressChanges := by
      rw [changes]
      exact Nat.lt_of_lt_of_le Nat.one_pos (Nat.le_add_right _ _)
    have within := le_sum_of_mem
      (mem_map.mpr ⟨result, listed, rfl⟩ :
        result.addressChanges ∈ results.map RewrittenSocket.addressChanges)
    omega
  simp only [rewriteTCPSocketEndpoints, computed, bind, Except.bind, check]
  rw [if_pos (by simp [changed])]
  exact ⟨_, rfl⟩

def listener (id : Nat) (address : Address) (port : Port) : InetSocket :=
  if address.is4 then
    ⟨id, familyInet, protoTCP, 10, address.words, (Address.ip4 0).words, port, 0, false⟩
  else ⟨id, familyInet6, protoTCP, 10, address.words, (Address.ip6 0 0 0 0).words, port, 0, false⟩

theorem listener_described (id : Nat) (address : Address) (port : Port) :
    (listener id address port).proto = protoTCP ∧ (listener id address port).srcPort = port ∧
      ∃ destination, Described (listener id address port) address destination := by
  unfold listener
  split
  · exact ⟨rfl, rfl, .ip4 0, rfl, rfl⟩
  · exact ⟨rfl, rfl, .ip6 0 0 0 0, rfl, rfl⟩

theorem mem_mappedLocalPorts :
    port ∈ mappedLocalPorts plan.mapping image ↔
      ∃ socket ∈ image, ∃ source : Address, socket.srcAddr = source.words ∧
        plan.maps source = true ∧ socket.srcPort = port ∧ port ≠ 0 := by
  rw [mappedLocalPorts, mem_filterMap]
  constructor
  · intro ⟨socket, member, equal⟩
    split at equal
    · cases equal
    · rename_i source decoded
      split at equal
      · rename_i both
        cases equal
        exact ⟨socket, member, source, words_of_decode decoded, both.1, rfl, both.2⟩
      · cases equal
  · intro ⟨socket, member, source, described, mapped, same, nonzero⟩
    refine ⟨socket, member, ?_⟩
    rw [described, decode_words]
    simp only
    rw [same, if_pos ⟨mapped, nonzero⟩]

theorem Plan.maps_of_unportable
    (unportable : portablePlacementAddress address.unmap = false) : plan.maps address = false := by
  by_contra present
  rw [Bool.not_eq_false] at present
  rcases Plan.maps_iff.mp present with ⟨target, found⟩
  rw [(plan.mapping.portable _ (AddressMap.lookup_iff.mp found)).1] at unportable
  cases unportable

theorem unspecified_unportable (unspecified : address.isUnspecified = true) :
    portablePlacementAddress address.unmap = false := by
  cases address with
  | ip4 word =>
    rw [Address.unmap, portablePlacementAddress, unspecified]
    rfl
  | ip6 first second third fourth =>
    simp only [isUnspecified, Bool.and_eq_true, decide_eq_true_eq] at unspecified
    rcases unspecified with ⟨⟨⟨rfl, rfl⟩, rfl⟩, rfl⟩
    decide

theorem listener_restored (done : rewriteTCPSocketEndpoints plan image = .ok rewriting)
    {index id : Nat} (found : image[index]? = some (listener id address port))
    {restored : InetSocket} (ends : rewriting.image[index]? = some restored) :
    restored.srcPort = plan.localPort (mappedLocalPorts plan.mapping image) address port := by
  rcases listener_described id address port with ⟨tcp, same, destination, described⟩
  rw [rewrite_socket done found tcp described] at ends
  rw [← Option.some.inj ends, Plan.rewritten, same]

theorem listeners_rewritten (plan : Plan)
    (listeners : ∀ socket ∈ image, ∃ id address port, socket = listener id address port)
    (mapped : ∃ id address port, listener id address port ∈ image ∧ plan.maps address = true) :
    ∃ rewriting, rewriteTCPSocketEndpoints plan image = .ok rewriting := by
  apply rewrite_succeeds plan
  · intro socket member
    rcases listeners socket member with ⟨id, address, port, equal⟩
    rcases listener_described id address port with ⟨tcp, _, destination, described⟩
    rw [equal]
    exact ⟨tcp, address, destination, described⟩
  · rcases mapped with ⟨id, address, port, member, present⟩
    rcases listener_described id address port with ⟨_, _, destination, described⟩
    exact ⟨_, member, address, destination, described, present⟩

def loopback : Address := .ip4 0x0100007F

def wildcard : Address := .ip4 0

theorem unmapped_listeners {unmapped mapped : Address} {other : Port}
    (outside : plan.maps unmapped = false) :
    ¬∃ socket ∈ [listener 1 unmapped port, listener 2 mapped 0], ∃ source : Address,
      socket.srcAddr = source.words ∧ plan.maps source = true ∧ socket.srcPort = other ∧
        other ≠ 0 := by
  intro ⟨socket, member, source, described, present, same, nonzero⟩
  rcases mem_cons.mp member with equal | member
  · rcases listener_described 1 unmapped port with ⟨_, _, destination, known⟩
    rw [equal, known.source] at described
    rw [← eq_of_words described, outside] at present
    cases present
  · rw [mem_singleton.mp member, (listener_described 2 mapped 0).2.1] at same
    exact nonzero same.symm

/-! ## Options -/

section Options

variable [Netip]

structure Plan.Follows (plan : Plan) (value : TcpOptions) : Prop where
  mapping : parseTCPAddressMap value.tcpAddressMap = .ok plan.mapping
  portMapping : parseTCPPortMap value.tcpPortMap = .ok plan.portMapping
  portShift : plan.portShift = value.tcpPortShift
  preservePort : plan.preservePort = value.tcpPreservePort
  allowEmptyMap : plan.allowEmptyMap = value.tcpAllowEmptyMap

theorem parseOptions_follows {value : TcpOptions}
    (parsed : parseOptions value = .ok plan) : plan.Follows value := by
  unfold parseOptions at parsed
  split at parsed
  · cases parsed
  · simp only [bind_eq_ok, pure_eq_ok] at parsed
    rcases parsed with ⟨_, _, _, _, _, _, _, _, portMapping, ports, mapping, addresses, equal⟩
    rw [← equal]
    exact ⟨addresses, ports, rfl, rfl, rfl⟩

variable {value : TcpProbeOptions}

theorem parseTCPProbeOptions_follows (parsed : parseTCPProbeOptions value = .ok plan) :
    plan.Follows value.options := by
  unfold parseTCPProbeOptions at parsed
  split at parsed
  · cases parsed
  · simp only [bind_eq_ok, pure_eq_ok] at parsed
    rcases parsed with ⟨_, _, _, _, _, _, mapping, addresses, portMapping, ports, _, _, equal⟩
    rw [← equal]
    exact ⟨addresses, ports, rfl, rfl, rfl⟩

/-- The options leave no choice. -/
theorem Plan.Follows.unique {first second : Plan} {value : TcpOptions}
    (left : first.Follows value) (right : second.Follows value) : first = second := by
  have mappings := Except.ok.inj (left.mapping.symm.trans right.mapping)
  have ports := Except.ok.inj (left.portMapping.symm.trans right.portMapping)
  have shifts := left.portShift.trans right.portShift.symm
  have preserved := left.preservePort.trans right.preservePort.symm
  have empties := left.allowEmptyMap.trans right.allowEmptyMap.symm
  cases first
  subst mappings ports shifts preserved empties
  rfl

theorem probedEndpoints_ok (probed : probedEndpoints value image = .ok endpoints) :
    ∃ plan rewriting planned, plan.Follows value.options ∧
      rewriteTCPSocketEndpoints plan image = .ok rewriting ∧
      plannedTCPListeners value = .ok planned ∧ endpoints = rewriting.endpoints ++ planned := by
  simp only [probedEndpoints, bind_eq_ok, pure_eq_ok] at probed
  rcases probed with ⟨plan, parsed, rewriting, rewritten, planned, listeners, equal⟩
  exact ⟨plan, rewriting, planned, parseTCPProbeOptions_follows parsed, rewritten, listeners,
    equal.symm⟩

end Options

end Coldsnap.Placement
