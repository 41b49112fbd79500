import Coldsnap.Placement.Rewriting
import Coldsnap.Placement.Texts

/-! # Local endpoints that coincide

Among the endpoints which are treated alike, different ones stay different. Endpoints which
are treated differently can end in one place, and the probe, which binds every endpoint
once, does not notice it. Sockets of another protocol are not left alone: the port map
applies to them too.
-/

namespace Coldsnap.Placement

open Go Address List Netip

inductive Treatment where
  | exchanged
  | rotated
  | kept
deriving DecidableEq, Repr

/-- The port map replaces a port. -/
def Plan.names (plan : Plan) (port : Port) : Bool :=
  plan.portMapping.any fun mapping => mapping.source = port

/-- What happens to a captured local port: a kept one is privileged or preserved, or there is
no shift, or the address is neither mapped nor a wildcard with a port of a mapped address. -/
def Plan.treatment (plan : Plan) (mappedPorts : List Port) (address : Address) (port : Port) :
    Treatment :=
  if plan.names port then .exchanged
  else if plan.portShift ≠ 0 ∧ 1024 ≤ port.val ∧ port.val ≠ plan.preservePort ∧
      (plan.maps address = true ∨ address.isUnspecified = true ∧ port ∈ mappedPorts) then .rotated
  else .kept

/-- Captured ports which get into each other's way: a kept port is where the rotation sends the
other one or the destination of the port map, or that destination is where the rotation sends
the other one. Ports which are treated alike are in the way only of themselves. -/
def Plan.Clash (plan : Plan) (mappedPorts : List Port) (left right : Address × Port) : Prop :=
  let target port := rotatePortableTCPPort port plan.portShift
  let destined port := ∃ mapping ∈ plan.portMapping, mapping.destination = port
  match plan.treatment mappedPorts left.1 left.2, plan.treatment mappedPorts right.1 right.2 with
  | .kept, .rotated => left.2 = target right.2
  | .rotated, .kept => right.2 = target left.2
  | .kept, .exchanged => destined left.2
  | .exchanged, .kept => destined right.2
  | .rotated, .exchanged => destined (target left.2)
  | .exchanged, .rotated => destined (target right.2)
  | _, _ => left.2 = right.2

instance (plan : Plan) (mappedPorts : List Port) (left right : Address × Port) :
    Decidable (plan.Clash mappedPorts left right) := by
  unfold Plan.Clash
  cases plan.treatment mappedPorts left.1 left.2 <;>
    cases plan.treatment mappedPorts right.1 right.2 <;> infer_instance

variable {plan : Plan} {mappedPorts : List Port}

theorem exchangePort_names (port : Port) :
    (exchangePort plan.portMapping port).2 = plan.names port := by
  unfold exchangePort Plan.names
  cases plan.portMapping with
  | none => rfl
  | some mapping =>
    by_cases named : port = mapping.source
    · simp [named]
    · simp [named, Ne.symm named]

theorem Plan.exists_of_names {port : Port} (named : plan.names port = true) :
    ∃ mapping, plan.portMapping = some mapping ∧ port = mapping.source := by
  unfold Plan.names at named
  cases found : plan.portMapping with
  | none => simp [found] at named
  | some mapping => exact ⟨mapping, rfl, by simpa [found, eq_comm] using named⟩

/-- Where a treatment takes a port. -/
theorem Plan.localPort_treated (address : Address) (port : Port) :
    plan.localPort mappedPorts address port =
      match plan.treatment mappedPorts address port with
      | .exchanged => (exchangePort plan.portMapping port).1
      | .rotated => rotatePortableTCPPort port plan.portShift
      | .kept => port := by
  unfold Plan.localPort Plan.port Plan.treatment
  rw [exchangePort_names]
  by_cases named : plan.names port = true
  · rw [if_pos named, if_pos named]
  · rw [if_neg named, if_neg named]
    have unchanged := exchangePort_unchanged
      ((exchangePort_names port).trans (Bool.eq_false_iff.mpr named))
    unfold Plan.rotate Plan.rotatesLocal
    rw [unchanged]
    simp only [Bool.or_eq_true, Bool.and_eq_true, decide_eq_true_eq, portableTCPPortBase]
    split <;> split <;> grind

theorem Plan.localPort_eq_iff (left right : Address × Port) :
    plan.localPort mappedPorts left.1 left.2 = plan.localPort mappedPorts right.1 right.2 ↔
      plan.Clash mappedPorts left right := by
  have exchanged : ∀ {address port}, plan.treatment mappedPorts address port = .exchanged →
      ∃ mapping, plan.portMapping = some mapping ∧ port = mapping.source := by
    intro address port treated
    unfold Plan.treatment at treated
    exact Plan.exists_of_names (by grind)
  rw [Plan.localPort_treated, Plan.localPort_treated, Plan.Clash]
  cases first : plan.treatment mappedPorts left.1 left.2 with
  | exchanged =>
    rcases exchanged first with ⟨mapping, found, source⟩
    cases second : plan.treatment mappedPorts right.1 right.2 with
    | exchanged =>
      rcases exchanged second with ⟨other, otherFound, otherSource⟩
      cases found.symm.trans otherFound
      simp [source, otherSource]
    | rotated => simp [exchangePort, found, source]
    | kept => simp [exchangePort, found, source]
  | rotated =>
    cases second : plan.treatment mappedPorts right.1 right.2 with
    | exchanged =>
      rcases exchanged second with ⟨mapping, found, source⟩
      simp [exchangePort, found, source, eq_comm]
    | rotated => exact (rotate_injective plan.portShift).eq_iff
    | kept => exact eq_comm
  | kept =>
    cases second : plan.treatment mappedPorts right.1 right.2 with
    | exchanged =>
      rcases exchanged second with ⟨mapping, found, source⟩
      simp [exchangePort, found, source, eq_comm]
    | rotated => exact .rfl
    | kept => exact .rfl

theorem eq_iff_unmap {left right : Address} :
    left = right ↔ left.unmap = right.unmap ∧ left.is4 = right.is4 := by
  refine ⟨by rintro rfl; exact ⟨rfl, rfl⟩, ?_⟩
  rintro ⟨same, forms⟩
  cases left with
  | ip4 word =>
    cases right with
    | ip4 other => exact same
    | ip6 first second third fourth => cases forms
  | ip6 first second third fourth =>
    cases right with
    | ip4 other => cases forms
    | ip6 first' second' third' fourth' =>
      simp only [unmap] at same
      split at same <;> split at same <;> simp_all

theorem Plan.address_is4 (address : Address) : (plan.address address).is4 = address.is4 := by
  cases present : plan.maps address with
  | false => rw [Plan.address_unmapped present]
  | true =>
    rcases Plan.maps_iff.mp present with ⟨target, found⟩
    have family := (AddressMap.lookup_unmapped found).2.2
    rw [Plan.address_mapped found]
    cases address with
    | ip4 word => cases target <;> first | rfl | cases family
    | ip6 first second third fourth => cases target <;> rfl

/-- The map sends an address to another one, which it leaves alone. -/
def Plan.Onto (plan : Plan) (source target : Address) : Prop :=
  plan.mapping.lookup source.unmap = some target.unmap ∧ source.is4 = target.is4 ∧
    plan.maps target = false

/-- Captured addresses which end at one address. -/
def Plan.Meet (plan : Plan) (left right : Address) : Prop :=
  left = right ∨ plan.Onto left right ∨ plan.Onto right left

theorem Plan.address_eq_iff {left right : Address} :
    plan.address left = plan.address right ↔ plan.Meet left right := by
  have ends := @eq_iff_unmap (plan.address left) (plan.address right)
  rw [Plan.address_is4, Plan.address_is4, Plan.address_unmap, Plan.address_unmap] at ends
  have same := @eq_iff_unmap left right
  rw [ends, Plan.Meet, Plan.Onto, Plan.Onto, same, Plan.maps, Plan.maps]
  cases leftFound : plan.mapping.lookup left.unmap with
  | none =>
    cases rightFound : plan.mapping.lookup right.unmap with
    | none => grind
    | some target => grind
  | some target =>
    cases rightFound : plan.mapping.lookup right.unmap with
    | none => grind
    | some other => grind [AddressMap.lookup_inj]

/-! ## Sockets -/

/-- A TCP socket of the image at a position, with its captured local endpoint. -/
def LocalAt (image : Image) (index : Nat) (address : Address) (port : Port) : Prop :=
  ∃ socket destination, image[index]? = some socket ∧
    socket.proto = protoTCP ∧ Described socket address destination ∧ socket.srcPort = port

/-- No two sockets with different captured local endpoints are given one. -/
def Separate (captured restored : Image) : Prop :=
  ∀ {left right leftAddress rightAddress leftPort rightPort address port},
    LocalAt captured left leftAddress leftPort → LocalAt captured right rightAddress rightPort →
    LocalAt restored left address port → LocalAt restored right address port →
    leftAddress = rightAddress ∧ leftPort = rightPort

/-- Different captured endpoints do not clash where their addresses meet. -/
def Plan.Unmixed (plan : Plan) (image : Image) : Prop :=
  ∀ {left right leftAddress rightAddress leftPort rightPort},
    LocalAt image left leftAddress leftPort → LocalAt image right rightAddress rightPort →
    (leftAddress, leftPort) ≠ (rightAddress, rightPort) → plan.Meet leftAddress rightAddress →
    ¬plan.Clash (mappedLocalPorts plan.mapping image) (leftAddress, leftPort)
      (rightAddress, rightPort)

variable {image : Image} {address : Address} {port : Port} {other : Address} {index : Nat}

theorem LocalAt.unique {otherPort : Port} (first : LocalAt image index address port)
    (second : LocalAt image index other otherPort) : address = other ∧ port = otherPort := by
  rcases first with ⟨socket, destination, found, _, described, same⟩
  rcases second with ⟨socket', destination', found', _, described', same'⟩
  rw [found] at found'
  cases found'
  exact ⟨(described.unique described').1, same.symm.trans same'⟩

def localEndpoints (image : Image) : List (List UInt32 × Port) :=
  image.map fun socket => (socket.srcAddr, socket.srcPort)

theorem LocalAt.listed (here : LocalAt image index address port) :
    (address.words, port) ∈ localEndpoints image := by
  rcases here with ⟨socket, destination, found, _, described, rfl⟩
  rw [← described.source]
  exact mem_map_of_mem (mem_of_getElem? found)

variable {rewriting : Rewriting}

/-- Where the local endpoint at a position ends. -/
theorem LocalAt.rewritten (done : rewriteTCPSocketEndpoints plan image = .ok rewriting)
    (here : LocalAt image index address port) :
    LocalAt rewriting.image index (plan.address address)
      (plan.localPort (mappedLocalPorts plan.mapping image) address port) := by
  rcases here with ⟨socket, destination, found, tcp, described, same⟩
  refine ⟨_, plan.address destination, rewrite_socket done found tcp described, tcp, ⟨rfl, rfl⟩, ?_⟩
  rw [← same]
  rfl

theorem separate_iff (done : rewriteTCPSocketEndpoints plan image = .ok rewriting) :
    Separate image rewriting.image ↔ plan.Unmixed image := by
  constructor
  · intro separate left right leftAddress rightAddress leftPort rightPort leftHere rightHere
      different meet clash
    have leftEnds := leftHere.rewritten done
    have rightEnds := rightHere.rewritten done
    rw [Plan.address_eq_iff.mpr meet, (Plan.localPort_eq_iff (_, _) (_, _)).mpr clash] at leftEnds
    rcases separate leftHere rightHere leftEnds rightEnds with ⟨addresses, ports⟩
    exact different (by rw [addresses, ports])
  · intro unmixed left right leftAddress rightAddress leftPort rightPort address port leftHere
      rightHere leftEnds rightEnds
    rcases leftEnds.unique (leftHere.rewritten done) with ⟨leftTo, leftPortTo⟩
    rcases rightEnds.unique (rightHere.rewritten done) with ⟨rightTo, rightPortTo⟩
    by_contra different
    rw [← Prod.mk.injEq] at different
    exact unmixed leftHere rightHere different
      (Plan.address_eq_iff.mp (leftTo.symm.trans rightTo))
      ((Plan.localPort_eq_iff (_, _) (_, _)).mp (leftPortTo.symm.trans rightPortTo))

def Available [Netip] (host : Host) (value : TcpProbeOptions) (image : Image) : Prop :=
  ∃ receipt, runTCPProbe host value image = .ok receipt ∧ receipt.available = true

/-- Whenever the probe finds a candidate available, the rewriting keeps different local
endpoints apart exactly if none of them ends in the place of another one which is treated
differently. -/
theorem available_separate_iff [Netip] (host : Host) (value : TcpProbeOptions) (image : Image)
    {plan : Plan} (accepted : parseOptions value.options = .ok plan)
    (available : Available host value image) :
    ∃ rewriting, rewriteTCPSocketEndpoints plan image = .ok rewriting ∧
      (Separate image rewriting.image ↔ plan.Unmixed image) := by
  rcases available with ⟨receipt, probed, _⟩
  simp only [runTCPProbe, bind_eq_ok] at probed
  rcases probed with ⟨endpoints, found, _⟩
  rcases probedEndpoints_ok found with ⟨other, rewriting, _, follows, rewritten, _, _⟩
  have same := (parseOptions_follows accepted).unique follows
  rw [← same] at rewritten
  exact ⟨rewriting, rewritten, separate_iff rewritten⟩

/-! ## A preserved port -/

def emptyHost : Host := ⟨(32768, 60999), fun _ => .bound⟩

def capturedAddress : Address := .ip4 0x0100000A

def restoredAddress : Address := .ip4 0x0200000A

def preservingOptions : TcpOptions :=
  ⟨["10.0.0.1=10.0.0.2"], 100, 8000, none, false⟩

def quietImage : Image := [listener 1 capturedAddress 8000, listener 2 capturedAddress 8001]

/-- What a restore with these options makes of the local endpoints of an image. -/
def rewrittenLocals [Netip] (options : TcpOptions) (image : Image) :
    Result (List (List UInt32 × Port)) := do
  let plan ← parseOptions options
  let rewriting ← rewriteTCPSocketEndpoints plan image
  return localEndpoints rewriting.image

/-- Accepted options and a rewriting, with what can be computed of them. -/
theorem exists_rewriting [Netip] {options : TcpOptions} {image : Image}
    {locals : List (List UInt32 × Port)} {test : Plan → Bool}
    (rewritten : rewrittenLocals options image = .ok locals)
    (tested : (parseOptions options).toOption.any test = true) :
    ∃ plan rewriting, parseOptions options = .ok plan ∧
      rewriteTCPSocketEndpoints plan image = .ok rewriting ∧
      localEndpoints rewriting.image = locals ∧ test plan = true := by
  simp only [rewrittenLocals, bind_eq_ok, pure_eq_ok] at rewritten
  rcases rewritten with ⟨plan, parsed, rewriting, done, rfl⟩
  rw [parsed] at tested
  exact ⟨plan, rewriting, parsed, done, rfl, tested⟩

theorem available_separate_quiet :
    ∃ plan rewriting, @parseOptions expanded preservingOptions = .ok plan ∧
      rewriteTCPSocketEndpoints plan quietImage = .ok rewriting ∧
      localEndpoints rewriting.image =
        [(restoredAddress.words, 8000), (restoredAddress.words, 8101)] ∧
      Separate quietImage rewriting.image := by
  let := expanded
  have rewritten : rewrittenLocals preservingOptions quietImage =
      .ok [(restoredAddress.words, 8000), (restoredAddress.words, 8101)] := by decide +kernel
  have tested : (parseOptions preservingOptions).toOption.any (fun plan =>
      let ports := mappedLocalPorts plan.mapping quietImage
      !decide (plan.Clash ports (capturedAddress, 8000) (capturedAddress, 8001)) &&
        !decide (plan.Clash ports (capturedAddress, 8001) (capturedAddress, 8000))) = true := by
    decide +kernel
  rcases exists_rewriting rewritten tested with ⟨plan, rewriting, parsed, done, locals, apart⟩
  have available : Available emptyHost ⟨preservingOptions, [], []⟩ quietImage :=
    ⟨⟨100, 2, true⟩, by decide +kernel, rfl⟩
  rcases available_separate_iff emptyHost _ quietImage parsed available with
    ⟨other, otherDone, separate⟩
  cases done.symm.trans otherDone
  refine ⟨plan, rewriting, parsed, done, locals, separate.mpr ?_⟩
  have known : ∀ {index address port}, LocalAt quietImage index address port →
      address = capturedAddress ∧ (port = 8000 ∨ port = 8001) := by
    intro index address port here
    have listed := here.listed
    simp only [localEndpoints, quietImage, listener, map_cons, map_nil, mem_cons,
      Prod.mk.injEq, not_mem_nil, or_false] at listed
    rcases listed with ⟨words, port⟩ | ⟨words, port⟩
    · exact ⟨eq_of_words words, .inl port⟩
    · exact ⟨eq_of_words words, .inr port⟩
  simp only [Bool.and_eq_true, Bool.not_eq_true', decide_eq_false_iff_not] at apart
  intro left right leftAddress rightAddress leftPort rightPort leftHere rightHere different _
  rcases known leftHere with ⟨rfl, rfl | rfl⟩
  · rcases known rightHere with ⟨rfl, rfl | rfl⟩
    · exact absurd rfl different
    · exact apart.1
  · rcases known rightHere with ⟨rfl, rfl | rfl⟩
    · exact apart.2
    · exact absurd rfl different

/-- Port 7900 is rotated onto the preserved port 8000. -/
def servingImage : Image := [listener 1 capturedAddress 8000, listener 2 capturedAddress 7900]

theorem available_not_separate :
    @runTCPProbe expanded emptyHost ⟨preservingOptions, [], []⟩ servingImage = .ok ⟨100, 1, true⟩ ∧
    @rewrittenLocals expanded preservingOptions servingImage =
      .ok [(restoredAddress.words, 8000), (restoredAddress.words, 8000)] := by
  decide +kernel

/-! ## Sockets of other protocols -/

/-- What the port map or the rotation can make of a port. -/
def Plan.Moves (plan : Plan) (before after : Port) : Prop :=
  after = before ∨ after = (exchangePort plan.portMapping before).1 ∨
    after = rotatePortableTCPPort before plan.portShift

theorem Plan.moves_port (plan : Plan) (applies : Bool) (port : Port) :
    plan.Moves port (plan.port applies port) := by
  unfold Plan.port Plan.rotate Plan.Moves
  split
  · exact .inr (.inl rfl)
  · split
    · exact .inr (.inr rfl)
    · exact .inl rfl

/-- Only a TCP socket changes, an address only if it is mapped, a port only by the port map
or the rotation, and nothing else. -/
structure Framed (plan : Plan) (before after : InetSocket) : Prop where
  other : before.proto ≠ protoTCP → after = before
  rest : after = { before with
    srcAddr := after.srcAddr
    dstAddr := after.dstAddr
    srcPort := after.srcPort
    dstPort := after.dstPort }
  source : ∀ address : Address, before.srcAddr = address.words → plan.maps address = false →
    after.srcAddr = before.srcAddr
  destination : ∀ address : Address, before.dstAddr = address.words →
    plan.maps address = false → after.dstAddr = before.dstAddr
  srcPort : plan.Moves before.srcPort after.srcPort
  dstPort : plan.Moves before.dstPort after.dstPort

def Plan.Passes (plan : Plan) (socket : InetSocket) : Prop :=
  (exchangePort plan.portMapping socket.srcPort).2 = false ∧
    (exchangePort plan.portMapping socket.dstPort).2 = false

theorem exchangePort_same (same : (exchangePort mapping port).1 = port) :
    (exchangePort mapping port).2 = false := by
  cases mapping with
  | none => rfl
  | some mapping =>
    unfold exchangePort at same ⊢
    simp only at same ⊢
    split
    · rename_i named
      rw [if_pos named, named] at same
      exact absurd same.symm mapping.different
    · rfl

theorem words_unmapped {parts : List UInt32} {found : Address} (decoded : parts = found.words)
    (same : parts = address.words) (absent : plan.maps address = false) :
    (plan.address found).words = parts := by
  rw [eq_of_words (decoded.symm.trans same), Plan.address_unmapped absent, same]

theorem framed_socket {socket : InetSocket} {result : RewrittenSocket}
    (rewritten : rewriteSocket plan mappedPorts socket = .ok result) :
    Framed plan socket result.socket ↔ (socket.proto ≠ protoTCP → plan.Passes socket) := by
  by_cases tcp : socket.proto = protoTCP
  · rcases rewriteSocket_described rewritten with ⟨source, destination, described⟩
    rcases rewriteSocket_tcp plan mappedPorts described tcp with ⟨other, computed, becomes, _⟩
    rw [rewritten] at computed
    cases computed
    rw [becomes]
    refine iff_of_true ⟨absurd tcp, rfl, ?_, ?_, plan.moves_port _ _, plan.moves_port _ _⟩
      (absurd tcp)
    · exact fun _ => words_unmapped described.source
    · exact fun _ => words_unmapped described.destination
  · rw [(rewriteSocket_other tcp rewritten).2]
    constructor
    · intro framed _
      have same := framed.other tcp
      exact ⟨exchangePort_same (congrArg InetSocket.srcPort same),
        exchangePort_same (congrArg InetSocket.dstPort same)⟩
    · intro passes
      rw [exchangePort_unchanged (passes tcp).1, exchangePort_unchanged (passes tcp).2]
      exact ⟨fun _ => rfl, rfl, fun _ _ _ => rfl, fun _ _ _ => rfl, .inl rfl, .inl rfl⟩

/-- A rewriting leaves the rest of an image alone exactly if no socket of another protocol
has a port that the port map names. -/
theorem rewrite_framed_iff {plan : Plan} {image : Image} {rewriting : Rewriting}
    (done : rewriteTCPSocketEndpoints plan image = .ok rewriting) :
    Forall₂ (Framed plan) image rewriting.image ↔
      ∀ socket ∈ image, socket.proto ≠ protoTCP → plan.Passes socket := by
  rcases rewrite_ok done with ⟨sockets, related, images, -⟩
  rw [images, forall₂_map_right_iff]
  clear done images
  generalize mappedLocalPorts plan.mapping image = mappedPorts at related
  induction related with
  | nil => simp
  | cons head _ induction =>
    rw [forall₂_cons, framed_socket head, induction, forall_mem_cons]

def datagram (port : Port) : InetSocket :=
  { listener 3 wildcard port with proto := 17, state := 7 }

def exchangingOptions : TcpOptions := ⟨["10.0.0.1=10.0.0.2"], 100, 0, some (8000, 9000), false⟩

def framedImage : Image :=
  [listener 1 capturedAddress 8000, listener 2 capturedAddress 7000, datagram 7000]

/-- The listeners are exchanged and rotated, the datagram socket stays. -/
theorem rewrite_framed_datagram :
    ∃ plan rewriting, @parseOptions expanded exchangingOptions = .ok plan ∧
      rewriteTCPSocketEndpoints plan framedImage = .ok rewriting ∧
      localEndpoints rewriting.image = [(restoredAddress.words, 9000),
        (restoredAddress.words, 7100), (wildcard.words, 7000)] ∧
      Forall₂ (Framed plan) framedImage rewriting.image := by
  let := expanded
  have rewritten : rewrittenLocals exchangingOptions framedImage = .ok
      [(restoredAddress.words, 9000), (restoredAddress.words, 7100), (wildcard.words, 7000)] := by
    decide +kernel
  have tested : (parseOptions exchangingOptions).toOption.any (fun plan =>
      framedImage.all fun socket => decide (socket.proto = protoTCP) ||
        !(exchangePort plan.portMapping socket.srcPort).2 &&
          !(exchangePort plan.portMapping socket.dstPort).2) = true := by decide +kernel
  rcases exists_rewriting rewritten tested with ⟨plan, rewriting, parsed, done, locals, passes⟩
  refine ⟨plan, rewriting, parsed, done, locals, (rewrite_framed_iff done).mpr ?_⟩
  intro socket member other
  have passed := all_eq_true.mp passes socket member
  simpa [other, Plan.Passes] using passed

theorem datagram_exchanged :
    (datagram 8000).proto ≠ protoTCP ∧
      @rewrittenLocals expanded exchangingOptions [listener 1 capturedAddress 8000, datagram 8000] =
        .ok [(restoredAddress.words, 9000), (wildcard.words, 9000)] := by
  decide +kernel

/-! ## Listeners -/

/-- A listening socket, and one which it may have accepted. -/
structure Accepts (image : Image) (listener accepted : Nat) (address other : Address)
    (port : Port) : Prop where
  listens : ∃ socket, image[listener]? = some socket ∧ socket.state = 10
  here : LocalAt image listener address port
  there : LocalAt image accepted other port
  reaches : address = other ∨ address.isUnspecified = true

/-- Listeners and what they accepted still have one local port. -/
def Together (captured restored : Image) : Prop :=
  ∀ {listener accepted address other port}, Accepts captured listener accepted address other port →
    ∀ {first second left right}, LocalAt restored listener first left →
      LocalAt restored accepted second right → left = right

/-- A listener on the wildcard whose port is one of a mapped address, with a socket at an
address which is not mapped: the port is not rotated at all. -/
def Plan.Uniform (plan : Plan) (image : Image) : Prop :=
  ∀ {listener accepted address other port}, Accepts image listener accepted address other port →
    address.isUnspecified = true → other.isUnspecified = false → plan.maps other = false →
    port ∈ mappedLocalPorts plan.mapping image →
      plan.portShift = 0 ∨ port.val < 1024 ∨ port.val = plan.preservePort ∨ plan.names port = true

theorem Plan.port_still_iff : plan.port true port = plan.port false port ↔
    plan.portShift = 0 ∨ port.val < 1024 ∨ port.val = plan.preservePort ∨
      plan.names port = true := by
  by_cases moved : plan.portShift ≠ 0 ∧ 1024 ≤ port.val ∧ port.val ≠ plan.preservePort ∧
      plan.names port = false
  · rcases moved with ⟨shifted, high, unspared, unnamed⟩
    have turned : plan.port true port ≠ plan.port false port := by
      simpa [Plan.port, exchangePort_names, unnamed, Plan.rotate, shifted, portableTCPPortBase,
        high, unspared] using rotate_ne high (Nat.pos_of_ne_zero shifted) plan.shiftBound
    exact iff_of_false turned (by grind)
  · refine iff_of_true ?_ (by grind)
    unfold Plan.port Plan.rotate
    rw [exchangePort_names, portableTCPPortBase]
    grind

/-- The listener and the socket stay together unless only the listener is rotated. -/
theorem accepts_iff {listener accepted : Nat}
    (pair : Accepts image listener accepted address other port) :
    plan.localPort (mappedLocalPorts plan.mapping image) address port =
      plan.localPort (mappedLocalPorts plan.mapping image) other port ↔
    (address.isUnspecified = true → other.isUnspecified = false → plan.maps other = false →
      port ∈ mappedLocalPorts plan.mapping image → plan.port true port = plan.port false port) := by
  by_cases still : plan.port true port = plan.port false port
  · have any : ∀ applies, plan.port applies port = plan.port false port :=
      Bool.forall_bool.mpr ⟨rfl, still⟩
    exact iff_of_true ((any _).trans (any _).symm) fun _ _ _ _ => still
  rw [Plan.port_still_iff, not_or, not_or, not_or, Bool.not_eq_true, Nat.not_lt] at still
  rcases still with ⟨_, high, _, unnamed⟩
  rcases pair.reaches with rfl | wild
  · exact iff_of_true rfl fun wild specified => absurd (wild.symm.trans specified) (by decide)
  have absent : plan.maps address = false := Plan.maps_of_unportable (unspecified_unportable wild)
  have listed : plan.maps other = true → port ∈ mappedLocalPorts plan.mapping image := by
    intro mapped
    obtain ⟨socket, destination, found, _, described, same⟩ := pair.there
    refine mem_mappedLocalPorts.mpr
      ⟨socket, mem_of_getElem? found, other, described.source, mapped, same, ?_⟩
    rintro rfl
    exact absurd high (by decide)
  have unchanged := exchangePort_unchanged ((exchangePort_names port).trans unnamed)
  simp only [Plan.localPort, Plan.rotatesLocal, unchanged, absent, wild]
  cases mapped : plan.maps other with
  | true => simp [listed mapped]
  | false =>
    by_cases rotated : port ∈ mappedLocalPorts plan.mapping image
    · cases other.isUnspecified <;> simp [rotated]
    · simp [rotated]

theorem together_iff (done : rewriteTCPSocketEndpoints plan image = .ok rewriting) :
    Together image rewriting.image ↔ plan.Uniform image := by
  constructor
  · intro together listener accepted address other port pair wild specified absent mapped
    exact Plan.port_still_iff.mp ((accepts_iff pair).mp (together pair (pair.here.rewritten done)
      (pair.there.rewritten done)) wild specified absent mapped)
  · intro uniform listener accepted address other port pair first second left right here there
    rw [(here.unique (pair.here.rewritten done)).2, (there.unique (pair.there.rewritten done)).2]
    exact (accepts_iff pair).mpr fun wild specified absent mapped =>
      Plan.port_still_iff.mpr (uniform pair wild specified absent mapped)

def acceptedSocket (id : Nat) (address : Address) (port : Port) : InetSocket :=
  { listener id address port with state := 1 }

def servedImage : Image :=
  [listener 1 wildcard 8000, acceptedSocket 2 capturedAddress 8000, acceptedSocket 3 loopback 8000,
    listener 4 wildcard 9000, acceptedSocket 5 capturedAddress 9000]

/-- Port 8000 is preserved everywhere, port 9000 is accepted at the mapped address only. -/
theorem together_served :
    ∃ plan rewriting, @parseOptions expanded preservingOptions = .ok plan ∧
      rewriteTCPSocketEndpoints plan servedImage = .ok rewriting ∧
      localEndpoints rewriting.image = [(wildcard.words, 8000), (restoredAddress.words, 8000),
        (loopback.words, 8000), (wildcard.words, 9100), (restoredAddress.words, 9100)] ∧
      Together servedImage rewriting.image := by
  let := expanded
  have rewritten : rewrittenLocals preservingOptions servedImage = .ok [(wildcard.words, 8000),
      (restoredAddress.words, 8000), (loopback.words, 8000), (wildcard.words, 9100),
      (restoredAddress.words, 9100)] := by decide +kernel
  have tested : (parseOptions preservingOptions).toOption.any (fun plan =>
      plan.maps capturedAddress && decide (plan.preservePort = 8000)) = true := by decide +kernel
  rcases exists_rewriting rewritten tested with ⟨plan, rewriting, parsed, done, locals, checked⟩
  refine ⟨plan, rewriting, parsed, done, locals, (together_iff done).mpr ?_⟩
  rw [Bool.and_eq_true, decide_eq_true_eq] at checked
  intro listener accepted address other port pair _ specified absent _
  have listed := pair.there.listed
  simp only [localEndpoints, servedImage, acceptedSocket, Placement.listener, map_cons, map_nil,
    mem_cons, Prod.mk.injEq, not_mem_nil, or_false] at listed
  have preserved : port = 8000 → port.val = plan.preservePort := by
    rintro rfl
    exact checked.2.symm
  rcases listed with ⟨_, at8000⟩ | ⟨_, at8000⟩ | ⟨_, at8000⟩ | ⟨words, _⟩ | ⟨words, _⟩
  · exact .inr (.inr (.inl (preserved at8000)))
  · exact .inr (.inr (.inl (preserved at8000)))
  · exact .inr (.inr (.inl (preserved at8000)))
  · have unspecified : other = wildcard := eq_of_words words
    rw [unspecified] at specified
    cases specified
  · have mapped : other = capturedAddress := eq_of_words words
    rw [mapped, checked.1] at absent
    cases absent

/-- Only the listener and the peer at the captured address are rotated. -/
theorem loopback_parted :
    @rewrittenLocals expanded preservingOptions [listener 1 wildcard 9000,
      acceptedSocket 2 capturedAddress 9000, acceptedSocket 3 loopback 9000] =
    .ok [(wildcard.words, 9100), (restoredAddress.words, 9100), (loopback.words, 9000)] := by
  decide +kernel

end Coldsnap.Placement
