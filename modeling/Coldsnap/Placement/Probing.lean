import Coldsnap.Placement.Connections

/-! # What the probe of a unit covers

The adapter probes all units with the port map of the first one. The endpoints which the
restore of a unit binds are among those of its probe exactly if the unit moves its serving
port like the first one, or does not move it.
-/

namespace Coldsnap.Placement

open Go Python Address List Netip

/-! ## What a plan binds -/

variable {mappedPorts : List Port} {source : Address} {plan : Plan} {endpoint : BindEndpoint}

theorem bound_some {socket : InetSocket}
    (bound : plan.bound mappedPorts socket source = some endpoint) :
    plan.rebinds mappedPorts source socket.srcPort = true ∧
      plan.localPort mappedPorts source socket.srcPort ≠ 0 ∧
      endpoint.key = ⟨socket.family, plan.address source,
        plan.localPort mappedPorts source socket.srcPort, socket.v6Only⟩ := by
  unfold Plan.bound at bound
  split at bound
  · rename_i both
    cases bound
    exact ⟨both.1, both.2, rfl⟩
  · cases bound

theorem bound_of (socket : InetSocket)
    (rebinds : plan.rebinds mappedPorts source socket.srcPort = true)
    (nonzero : plan.localPort mappedPorts source socket.srcPort ≠ 0) :
    ∃ endpoint, plan.bound mappedPorts socket source = some endpoint ∧
      endpoint.key = ⟨socket.family, plan.address source,
        plan.localPort mappedPorts source socket.srcPort, socket.v6Only⟩ := by
  refine ⟨_, if_pos ⟨rebinds, nonzero⟩, rfl⟩

variable {address : Address}

theorem Plan.address_portable (present : plan.maps address = true) :
    portablePlacementAddress (plan.address address).unmap = true := by
  rcases Plan.maps_iff.mp present with ⟨target, found⟩
  rw [Plan.address_unmap, found]
  exact (plan.mapping.portable _ (AddressMap.lookup_iff.mp found)).2

variable {port : Port}

theorem exchangeWith_applied {pairing : Option (Port × Port)} {target : Port}
    (applies : (exchangeWith pairing port).2 = true)
    (ends : (exchangeWith pairing port).1 = target) : pairing = some (port, target) := by
  cases pairing with
  | none => cases applies
  | some pair =>
    rcases pair with ⟨source, destination⟩
    by_cases same : port = source
    · simp only [exchangeWith, if_pos same] at ends
      rw [same, ends]
    · simp only [exchangeWith, if_neg same] at applies
      cases applies

variable {image : Image}

theorem listener_rebound {rewriting : Rewriting}
    (done : rewriteTCPSocketEndpoints plan image = .ok rewriting) {id : Nat}
    (member : listener id address port ∈ image)
    (rebinds : plan.rebinds (mappedLocalPorts plan.mapping image) address port = true)
    (nonzero : plan.localPort (mappedLocalPorts plan.mapping image) address port ≠ 0) :
    (⟨(listener id address port).family, plan.address address,
      plan.localPort (mappedLocalPorts plan.mapping image) address port,
      (listener id address port).v6Only⟩ : BindKey) ∈ rewriting.endpoints.map BindEndpoint.key := by
  rcases listener_described id address port with ⟨tcp, same, destination, described⟩
  rw [rewrite_endpoints done]
  rw [← same] at rebinds nonzero
  rcases bound_of (listener id address port) rebinds nonzero with ⟨endpoint, bound, keyed⟩
  rw [same] at keyed
  exact ⟨_, member, address, destination, endpoint, described, tcp, bound, keyed⟩

theorem listener_bound {id : Nat} {destination : Address}
    (described : Described (listener id address port) source destination)
    (bound : plan.bound mappedPorts (listener id address port) source = some endpoint) :
    plan.rebinds mappedPorts address port = true ∧ endpoint.key.address = plan.address address ∧
      endpoint.key.port = plan.localPort mappedPorts address port := by
  rcases listener_described id address port with ⟨_, same, other, known⟩
  rw [← (known.unique described).1] at bound
  rcases bound_some bound with ⟨rebinds, _, keyed⟩
  rw [same] at rebinds keyed
  rw [keyed]
  exact ⟨rebinds, rfl, rfl⟩

section Covering

variable [Netip]

structure Probing (driver : Driver) (policy : PortPolicy) (first : Option UnitPair)
    (addressMapping : List String) (shift : Nat) (unit : LaunchUnit) (value : TcpProbeOptions)
    (probe : Plan) : Prop where
  planned : probePlan driver policy first addressMapping shift unit = .ok (.probe value)
  parsed : parseTCPProbeOptions value = .ok probe

/-- Every endpoint which the restore binds is one that the probe binds, whatever the image. -/
def Covers (plan : Plan) (value : TcpProbeOptions) : Prop :=
  ∀ (image : Image) (rewriting : Rewriting) (endpoints : List BindEndpoint),
    rewriteTCPSocketEndpoints plan image = .ok rewriting →
    probedEndpoints value image = .ok endpoints →
    ∀ key ∈ rewriting.endpoints.map BindEndpoint.key, key ∈ endpoints.map BindEndpoint.key

def ProbedAlike (policy : PortPolicy) (first : Option UnitPair) (args : RankArguments) : Prop :=
  if args.capturedHttpPort = args.httpPort then policy.preserve = true ∨ args.httpPort.val < 1024
  else probePortMap policy first = some (args.capturedHttpPort, args.httpPort)

variable {driver : Driver} {policy : PortPolicy} {first : Option UnitPair}
  {addressMapping : List String} {shift : Nat} {unit : LaunchUnit} {value : TcpProbeOptions}
  {probe : Plan}

namespace Probing

section

variable (probing : Probing driver policy first addressMapping shift unit value probe)

include probing

theorem options_eq :
    value.options = probeTcpOptions driver policy first addressMapping shift unit ∧
      ∀ endpoint ∈ value.listenEndpoints ++ value.generatedListenEndpoints,
        endpoint.1.isUnspecified = true := by
  have planned := probing.planned
  unfold probePlan at planned
  cases driver with
  | n610 =>
    cases planned
    exact ⟨rfl, nofun⟩
  | n580 =>
    simp only [bind_eq_ok] at planned
    rcases planned with ⟨address, _, _, _, chosen⟩
    have unspecified :
        (if address.is4 then Address.ip4 0 else Address.ip6 0 0 0 0).isUnspecified = true := by
      cases address.is4 <;> rfl
    split at chosen
    · cases chosen
    · split at chosen
      · cases chosen
        exact ⟨rfl, by simp [unspecified]⟩
      · cases chosen
        exact ⟨rfl, by simp [unspecified]⟩

theorem follows :
    probe.Follows (probeTcpOptions driver policy first addressMapping shift unit) := by
  rw [← probing.options_eq.1]
  exact parseTCPProbeOptions_follows probing.parsed

variable {rewriting : Rewriting}

variable (done : rewriteTCPSocketEndpoints probe image = .ok rewriting)

include done

/-- The probe binds what its plan rewrites, and listeners on the wildcard. -/
theorem endpoints : ∃ planned, probedEndpoints value image = .ok (rewriting.endpoints ++ planned) ∧
      ∀ endpoint ∈ planned, endpoint.address.isUnspecified = true := by
  have listeners : ∃ planned, plannedTCPListeners value = .ok planned := by
    have parsed := probing.parsed
    unfold parseTCPProbeOptions at parsed
    split at parsed
    · cases parsed
    · simp only [bind_eq_ok] at parsed
      rcases parsed with ⟨_, _, _, _, _, _, _, _, _, _, planned, listeners, _⟩
      exact ⟨planned, listeners⟩
  rcases listeners with ⟨planned, listeners⟩
  refine ⟨planned, ?_, ?_⟩
  · simp only [probedEndpoints, bind_eq_ok, pure_eq_ok]
    exact ⟨probe, probing.parsed, rewriting, done, planned, listeners, rfl⟩
  · simp only [plannedTCPListeners, bind_eq_ok, pure_eq_ok] at listeners
    rcases listeners with ⟨_, _, equal⟩
    intro endpoint member
    rw [← equal, mem_append, mem_map, mem_map] at member
    rcases member with ⟨listed, inside, same⟩ | ⟨listed, inside, same⟩
    · rw [← same]
      exact probing.options_eq.2 listed (mem_append_left _ inside)
    · rw [← same]
      exact probing.options_eq.2 listed (mem_append_right _ inside)

/-- A probed endpoint which is not on the wildcard belongs to a socket. -/
theorem probed_socket {endpoints : List BindEndpoint}
    (probed : probedEndpoints value image = .ok endpoints) {key : BindKey}
    (member : key ∈ endpoints.map BindEndpoint.key) (specific : key.address.isUnspecified = false) :
    ∃ socket ∈ image, ∃ source destination endpoint, Described socket source destination ∧
      socket.proto = protoTCP ∧
      probe.bound (mappedLocalPorts probe.mapping image) socket source = some endpoint ∧
      endpoint.key = key := by
  rcases probing.endpoints done with ⟨planned, equal, unspecified⟩
  rw [equal] at probed
  rw [← Except.ok.inj probed, map_append, mem_append] at member
  rcases member with inside | inside
  · exact (rewrite_endpoints done key).mp inside
  · rcases mem_map.mp inside with ⟨endpoint, listed, same⟩
    have wild := unspecified endpoint listed
    rw [← same, BindEndpoint.key] at specific
    rw [wild] at specific
    cases specific

end

end Probing

/-! ## Sufficiency -/

variable {pair : UnitPair} {args : RankArguments}

section

variable (probing : Probing driver policy first addressMapping shift unit value probe)

include probing

theorem covers_self : Covers probe value := by
  intro image rewriting endpoints done probed key member
  rcases probing.endpoints done with ⟨planned, equal, _⟩
  rw [equal] at probed
  rw [← Except.ok.inj probed, map_append]
  exact mem_append_left _ member

/-- A plan covers another one with the same addresses if it binds the same local ports. -/
theorem covers_of_ports (mappings : plan.mapping = probe.mapping)
    (ports : ∀ mappedPorts address port, plan.rebinds mappedPorts address port = true →
      probe.rebinds mappedPorts address port = true ∧
        probe.localPort mappedPorts address port = plan.localPort mappedPorts address port) :
    Covers plan value := by
  intro image rewriting endpoints done probed key member
  rcases probedEndpoints_ok probed with
    ⟨other, probeRewriting, planned, follows, probeDone, _, equal⟩
  have same : other = probe :=
    follows.unique (parseTCPProbeOptions_follows probing.parsed)
  rw [same] at probeDone
  rw [equal, map_append]
  apply mem_append_left
  rw [rewrite_endpoints done] at member
  rw [rewrite_endpoints probeDone]
  rcases member with ⟨socket, inside, source, destination, endpoint, described, tcp, bound, keyed⟩
  rcases bound_some bound with ⟨rebinds, nonzero, key_eq⟩
  rw [mappings] at rebinds nonzero key_eq
  rcases ports _ _ _ rebinds with ⟨probeRebinds, samePort⟩
  rw [← samePort] at nonzero key_eq
  rcases bound_of socket probeRebinds nonzero with ⟨probeEndpoint, probeBound, probeKey⟩
  have addresses : plan.address source = probe.address source := by
    rw [Plan.address, Plan.address, mappings]
  refine ⟨socket, inside, source, destination, probeEndpoint, described, tcp, probeBound, ?_⟩
  rw [probeKey, ← addresses, ← key_eq, keyed]

end

/-- The port map of the probes is one with the rotation. -/
def Rotating (policy : PortPolicy) (first : Option UnitPair) (shift : Nat) : Prop :=
  ∀ source destination, probePortMap policy first = some (source, destination) →
    rotatePortableTCPPort source shift = destination

/-- A probe with a port map sends all ports it binds where the rotation sends them. -/
theorem probe_port (firstRotates : Rotating policy first shift)
    (unpreserved : policy.preserve = false)
    (probing : Probing driver policy first addressMapping shift unit value probe)
    (mappings : plan.mapping = probe.mapping)
    (exchanged : exchangePort plan.portMapping port = (port, false))
    (rotates : plan.rotatesLocal mappedPorts address port = true) :
    probe.rebinds mappedPorts address port = true ∧
      probe.localPort mappedPorts address port = rotatePortableTCPPort port shift := by
  have probed := probing.follows
  have probeExchanges := exchangePort_eq probed.portMapping port
  have shifts : probe.portShift = shift := probed.portShift
  have preserves : probe.preservePort = 0 := by
    rw [probed.preservePort, probeTcpOptions, unpreserved]
    rfl
  have unmapped : (exchangePort probe.portMapping port).2 = false →
      probe.rotatesLocal mappedPorts address port = true := by
    intro other
    rw [Plan.rotatesLocal, exchangePort_unchanged other]
    rw [Plan.rotatesLocal, exchanged] at rotates
    rwa [Plan.maps, ← mappings]
  cases applies : (exchangePort probe.portMapping port).2 with
  | false =>
    refine ⟨by rw [Plan.rebinds, unmapped applies, Bool.true_or], ?_⟩
    rw [Plan.localPort, unmapped applies, Plan.port, applies, if_neg Bool.false_ne_true,
      Plan.rotate_applied, shifts]
    omega
  | true =>
    refine ⟨by rw [Plan.rebinds, applies, Bool.or_true], ?_⟩
    rw [Plan.localPort, Plan.port, applies, if_pos rfl, probeExchanges]
    rw [probeExchanges] at applies
    exact (firstRotates _ _ (exchangeWith_applied applies rfl)).symm

section

variable (restoring : Restoring driver addressMapping shift pair args plan)
  (probing : Probing driver policy first addressMapping shift pair.2 value probe)

include restoring probing

theorem same_mapping (mapped : addressMapping ≠ []) : plan.mapping = probe.mapping := by
  have restored := (restoring.follows mapped).mapping
  rw [portOptions, restoring.arguments.1] at restored
  exact Except.ok.inj (restored.symm.trans probing.follows.mapping)

/-- Where the probe treats the serving port as the restore does, the probe covers it. -/
theorem covers_of_alike (mapped : addressMapping ≠ [])
    (nonzero : shift ≠ 0) (preserves : policy.preserve = true ↔ policy.fixedShift = 0)
    (firstRotates : Rotating policy first shift) (alike : ProbedAlike policy first args) : Covers
    plan value := by
  rcases restoring.arguments with ⟨mapping, shifted, requested, _⟩
  have restored := restoring.follows mapped
  have whole : portOptions args (decide (driver = .n580)) =
      probeTcpOptions driver policy first addressMapping shift pair.2 → Covers plan value := by
    intro same
    rw [same] at restored
    rw [restored.unique probing.follows]
    exact covers_self probing
  unfold ProbedAlike at alike
  by_cases stays : args.capturedHttpPort = args.httpPort
  · rw [if_pos stays] at alike
    by_cases preserved : policy.preserve = true
    · apply whole
      simp [portOptions, probeTcpOptions, probePortMap, mapping, shifted, requested, stays,
        preserved, preserves.mp preserved, nonzero]
    · have low := alike.resolve_left preserved
      apply covers_of_ports probing (same_mapping restoring probing mapped)
      intro mappedPorts address port rebinds
      have exchanged := restored.exchanges port
      rw [if_neg (fun both => both.2 stays)] at exchanged
      rw [Plan.rebinds, exchanged, Bool.or_false] at rebinds
      have restoredPort : plan.localPort mappedPorts address port =
          rotatePortableTCPPort port shift := by
        rw [Plan.localPort, rebinds, restored.mapped_port, restoredPort_stays stays, shifted]
        split
        · rename_i serves
          rw [serves, rotate_privileged low]
        · rfl
      rw [restoredPort]
      exact probe_port firstRotates (Bool.eq_false_iff.mpr preserved) probing
        (same_mapping restoring probing mapped) exchanged rebinds
  · rw [if_neg stays] at alike
    have fixed : policy.preserve = false := by
      cases preserved : policy.preserve with
      | false => rfl
      | true =>
        rw [probePortMap, if_pos (preserves.mp preserved)] at alike
        cases alike
    apply whole
    simp [portOptions, probeTcpOptions, mapping, shifted, stays, fixed, alike]

/-! ## Necessity -/

variable {old new : Address} (listed : mappingText old new ∈ addressMapping)

include listed

/-- The restore leaves an unprivileged serving port where it is, but such a probe rotates it. -/
theorem preserved_of_covers
    (positive : 1 ≤ shift) (bound : shift ≤ 64511) (firstRotates : Rotating policy first shift)
    (covers : Covers plan value) (stays : args.capturedHttpPort = args.httpPort) :
    policy.preserve = true ∨ args.httpPort.val < 1024 := by
  have mapped : addressMapping ≠ [] := ne_nil_of_mem listed
  have mappings := same_mapping restoring probing mapped
  have maps : plan.maps old = true := Plan.maps_iff.mpr ⟨_, restoring.lookup mapped listed⟩
  have probeMaps : probe.maps old = true := by rwa [Plan.maps, ← mappings]
  have restored := restoring.follows mapped
  by_contra neither
  rw [not_or, Bool.not_eq_true] at neither
  have high := Nat.le_of_not_lt neither.2
  let image : Image := [listener 1 old args.httpPort]
  have listeners : ∀ socket ∈ image, ∃ id address port, socket = listener id address port :=
    fun socket inside => ⟨_, _, _, mem_singleton.mp inside⟩
  rcases listeners_rewritten plan listeners ⟨_, _, _, mem_cons_self, maps⟩ with
    ⟨rewriting, done⟩
  rcases listeners_rewritten probe listeners ⟨_, _, _, mem_cons_self, probeMaps⟩ with
    ⟨probeRewriting, probeDone⟩
  rcases probing.endpoints probeDone with ⟨planned, probed, _⟩
  have rotates : ∀ mappedPorts, plan.rotatesLocal mappedPorts old args.httpPort = true := by
    intro mappedPorts
    rw [Plan.rotatesLocal, maps, Bool.true_or]
  have port : ∀ mappedPorts, plan.localPort mappedPorts old args.httpPort = args.httpPort := by
    intro mappedPorts
    rw [Plan.localPort, ← stays, restored.serving_port, stays]
  have nonzero : args.httpPort ≠ 0 := by
    intro zero
    rw [zero] at high
    exact absurd high (by decide)
  have rebound := listener_rebound done (mem_cons_self : listener 1 old args.httpPort ∈ image)
    (by rw [Plan.rebinds, rotates, Bool.true_or]) (by rw [port]; exact nonzero)
  have specific : (plan.address old).isUnspecified = false := by
    by_contra wild
    have unportable := unspecified_unportable (Bool.not_eq_false _ ▸ wild)
    rw [Plan.address_portable maps] at unportable
    cases unportable
  rcases probing.probed_socket probeDone probed (covers _ _ _ done probed _ rebound) specific with
    ⟨socket, inside, source, destination, endpoint, described, _, probeBound, keyed⟩
  rw [mem_singleton.mp inside] at described probeBound
  have exchanged := restored.exchanges args.httpPort
  rw [if_neg (fun both => both.2 stays)] at exchanged
  have rotated := (probe_port firstRotates neither.1 probing mappings exchanged
    (rotates (mappedLocalPorts probe.mapping image))).2
  rw [← (listener_bound described probeBound).2.2, keyed, port] at rotated
  exact rotate_ne high positive bound rotated.symm

/-- A listener on the serving port which only the port map of the restore moves. -/
theorem moved_of_covers
    (covers : Covers plan value) (stays : args.capturedHttpPort ≠ args.httpPort) :
    probePortMap policy first = some (args.capturedHttpPort, args.httpPort) := by
  have mapped : addressMapping ≠ [] := ne_nil_of_mem listed
  have mappings := same_mapping restoring probing mapped
  have maps : plan.maps old = true := Plan.maps_iff.mpr ⟨_, restoring.lookup mapped listed⟩
  have probeMaps : probe.maps old = true := by rwa [Plan.maps, ← mappings]
  have restored := restoring.follows mapped
  have high := restored.moved_high stays
  have outside : plan.maps loopback = false := Plan.maps_of_unportable (by decide)
  have probeOutside : probe.maps loopback = false := Plan.maps_of_unportable (by decide)
  let image : Image := [listener 1 loopback args.capturedHttpPort, listener 2 old 0]
  have listeners : ∀ socket ∈ image, ∃ id address port, socket = listener id address port :=
    forall_mem_cons.mpr ⟨⟨_, _, _, rfl⟩, forall_mem_singleton.mpr ⟨_, _, _, rfl⟩⟩
  have second : listener 2 old 0 ∈ image := mem_cons_of_mem _ mem_cons_self
  rcases listeners_rewritten plan listeners ⟨_, _, _, second, maps⟩ with ⟨rewriting, done⟩
  rcases listeners_rewritten probe listeners ⟨_, _, _, second, probeMaps⟩ with
    ⟨probeRewriting, probeDone⟩
  rcases probing.endpoints probeDone with ⟨planned, probed, _⟩
  have exchanged := restored.exchanges args.capturedHttpPort
  rw [if_pos ⟨rfl, stays⟩] at exchanged
  have port : ∀ mappedPorts, plan.localPort mappedPorts loopback args.capturedHttpPort =
      args.httpPort := fun mappedPorts => restored.serving_port _
  have nonzero : args.httpPort ≠ 0 := by
    intro zero
    rw [zero] at high
    exact absurd high.2 (by decide)
  have rebound := listener_rebound done
    (mem_cons_self : listener 1 loopback args.capturedHttpPort ∈ image)
    (by rw [Plan.rebinds, exchanged, Bool.or_true]) (by rw [port]; exact nonzero)
  rw [Plan.address_unmapped outside, port] at rebound
  rcases probing.probed_socket probeDone probed (covers _ _ _ done probed _ rebound) rfl with
    ⟨socket, inside, source, destination, endpoint, described, _, probeBound, keyed⟩
  rcases mem_cons.mp inside with equal | inside
  · rw [equal] at described probeBound
    rcases listener_bound described probeBound with ⟨rebinds, _, ends⟩
    have fixed : ∀ mappedPorts, probe.rotatesLocal mappedPorts loopback args.capturedHttpPort =
        false := by
      intro mappedPorts
      rw [Plan.rotatesLocal, probeOutside]
      rfl
    rw [Plan.rebinds, fixed, Bool.false_or] at rebinds
    rw [keyed, Plan.localPort, Plan.port, rebinds, if_pos rfl] at ends
    have probeExchanges := exchangePort_eq probing.follows.portMapping args.capturedHttpPort
    rw [probeExchanges] at rebinds ends
    exact exchangeWith_applied rebinds ends.symm
  · rw [mem_singleton.mp inside] at described probeBound
    have address := (listener_bound described probeBound).2.1
    rw [keyed] at address
    have portable := Plan.address_portable probeMaps
    rw [← address] at portable
    cases portable

end

/-- The probe of a unit covers its restore exactly if it treats the serving port alike. -/
theorem probe_covers_iff {captured requested : List LaunchUnit} {addressMapping : List String}
    (placed : placementTCPAddressMap captured requested = .ok addressMapping)
    {policy : PortPolicy} (accepted : portableHTTPPortPolicy captured requested = .ok policy)
    {shift : Nat} (allowed : policy.Allows shift) {pair : UnitPair}
    (member : pair ∈ captured.zip requested) {driver : Driver} {args : RankArguments}
    {plan probe : Plan} {value : TcpProbeOptions}
    (restoring : Restoring driver addressMapping shift pair args plan)
    (probing : Probing driver policy (captured.zip requested).head? addressMapping shift pair.2
      value probe) :
    Covers plan value ↔ ProbedAlike policy (captured.zip requested).head? args := by
  rcases placement_listed placed member with ⟨old, new, _, _, listed⟩
  have mapped : addressMapping ≠ [] := ne_nil_of_mem listed
  rcases policy_fits accepted with ⟨fits, preserves⟩
  have positive : 1 ≤ shift := by
    rw [PortPolicy.Allows] at allowed
    split at allowed
    · exact allowed.1
    · rename_i unpreserved
      rw [allowed]
      exact Nat.pos_of_ne_zero fun zero => unpreserved (preserves.mpr zero)
  have bound : shift ≤ 64511 := restoring.shift_eq mapped ▸ plan.shiftBound
  have firstRotates : Rotating policy (captured.zip requested).head? shift := by
    intro source destination configured
    have parsed := probing.follows.portMapping
    rw [probeTcpOptions, configured] at parsed
    unfold probePortMap at configured
    split at configured
    · cases configured
    · rename_i fixed
      rcases Option.map_eq_some_iff.mp configured with ⟨firstPair, head, equal⟩
      cases equal
      have low : 1024 ≤ (httpPort firstPair.1.command).val := by
        simp only [parseTCPPortMap] at parsed
        split at parsed
        · rename_i valid
          exact valid.1
        · cases parsed
      rw [PortPolicy.Allows, if_neg (fun preserved => fixed (preserves.mp preserved))] at allowed
      rw [allowed]
      exact Fits.rotates (fits firstPair (mem_of_mem_head? head)) low
  constructor
  · intro covers
    unfold ProbedAlike
    split
    · rename_i stays
      exact preserved_of_covers restoring probing listed positive bound firstRotates covers stays
    · rename_i moves
      exact moved_of_covers restoring probing listed covers moves
  · exact covers_of_alike restoring probing mapped (Nat.ne_of_gt positive) preserves firstRotates

/-! ## Selection -/

theorem selectAmong_ok {units : List Placed} {offered : List Nat} :
    ∀ {seen : List Nat}, selectAmong policy units addressMapping seen offered = .ok shift →
      shift ∈ offered ∧ ∀ unit ∈ units, probeUnit unit.driver policy
        ((units.head?).map Placed.pair) addressMapping shift unit.pair.2 unit.host unit.image =
          .ok none := by
  induction offered with
  | nil =>
    intro seen selected
    cases selected
  | cons candidate offered induction =>
    intro seen selected
    rw [selectAmong] at selected
    split at selected
    · rcases induction selected with ⟨member, probed⟩
      exact ⟨mem_cons_of_mem _ member, probed⟩
    · rcases bind_eq_ok.mp selected with ⟨collisions, probed, chosen⟩
      split at chosen
      · rename_i free
        cases chosen
        refine ⟨mem_cons_self, ?_⟩
        intro unit member
        rcases Checked.exists_of_forall₂ (mapEach_eq_ok.mp probed) member with
          ⟨collision, listed, same⟩
        rw [same, Option.isNone_iff_eq_none.mp (all_eq_true.mp free collision listed)]
      · rcases induction chosen with ⟨member, later⟩
        exact ⟨mem_cons_of_mem _ member, later⟩

/-- A rotation is only selected after the probes of all units found it available. -/
theorem select_probed {candidates : Nat → Nat}
    (range : ∀ attempt, 1 ≤ candidates attempt ∧ candidates attempt ≤ 64511) {units : List Placed}
    (selected : selectPortableTCPPortShift candidates units addressMapping = .ok shift) :
    ∃ policy, portableHTTPPortPolicy (units.map (·.pair.1)) (units.map (·.pair.2)) = .ok policy ∧
      policy.Allows shift ∧ ∀ unit ∈ units, ∃ value receipt,
        probePlan unit.driver policy ((units.head?).map Placed.pair) addressMapping shift
          unit.pair.2 = .ok (.probe value) ∧
        runTCPProbe unit.host value unit.image = .ok receipt ∧ receipt.available = true := by
  simp only [selectPortableTCPPortShift, bind_eq_ok] at selected
  rcases selected with ⟨policy, accepted, chosen⟩
  rcases selectAmong_ok chosen with ⟨offered, probed⟩
  refine ⟨policy, accepted, ?_, ?_⟩
  · have preserves := (policy_fits accepted).2
    rw [PortPolicy.Allows]
    split
    · rename_i preserved
      rw [if_neg (not_not.mpr (preserves.mp preserved))] at offered
      rcases mem_map.mp offered with ⟨attempt, _, equal⟩
      rw [← equal]
      exact range attempt
    · rename_i unpreserved
      rw [if_pos (fun zero => unpreserved (preserves.mpr zero))] at offered
      exact mem_singleton.mp offered
  · intro unit member
    have free := probed unit member
    simp only [probeUnit, bind_eq_ok] at free
    rcases free with ⟨step, planned, outcome⟩
    cases step with
    | collision message => cases outcome
    | probe value =>
      simp only [bind_eq_ok, within_eq_ok, pure_eq_ok] at outcome
      rcases outcome with ⟨receipt, ran, _, _, none⟩
      split at none
      · rename_i available
        exact ⟨value, receipt, planned, ran, available⟩
      · cases none

end Covering

/-! ## A second serving port -/

def restoreKeys [Netip] (driver : Driver) (addressMapping : List String) (shift : Nat)
    (pair : UnitPair) (image : Image) : Option (List BindKey) := do
  let args ← (rankArguments addressMapping shift pair).toOption
  let plan ← (parseOptions (criuCommand driver args)).toOption
  let rewriting ← (rewriteTCPSocketEndpoints plan image).toOption
  return rewriting.endpoints.map BindEndpoint.key

def firstPair : UnitPair := firstAt "8000" "9000"

def secondPair : UnitPair := secondAt "8001" "9001"

def firstArguments : RankArguments := ⟨twoMapping, 1000, 9000, 8000⟩

def firstProbe : TcpProbeOptions := ⟨⟨twoMapping, 1000, 0, some (8000, 9000), false⟩, [], []⟩

/-- The first unit of the two is covered by its probe. -/
theorem probe_covers_first :
    ∃ plan probe,
      @Restoring expanded .n610 twoMapping 1000 firstPair firstArguments plan ∧
      @Probing expanded .n610 ⟨1000, false⟩ (some firstPair) twoMapping 1000 firstPair.2
        firstProbe probe ∧
      @Covers expanded plan firstProbe := by
  let := expanded
  rcases exists_of_isOk (show (parseOptions (criuCommand .n610 firstArguments)).isOk by
    decide +kernel) with ⟨plan, parsed⟩
  rcases exists_of_isOk (show (parseTCPProbeOptions firstProbe).isOk by decide +kernel) with
    ⟨probe, probeParsed⟩
  have placed : placementTCPAddressMap [firstPair.1, secondPair.1] [firstPair.2, secondPair.2] =
      .ok twoMapping := by decide +kernel
  have accepted : portableHTTPPortPolicy [firstPair.1, secondPair.1] [firstPair.2, secondPair.2] =
      .ok ⟨1000, false⟩ := by decide +kernel
  have allowed : PortPolicy.Allows ⟨1000, false⟩ 1000 := by
    rw [PortPolicy.Allows]
    decide
  have restoring : Restoring .n610 twoMapping 1000 firstPair firstArguments plan :=
    ⟨by decide +kernel, parsed⟩
  have probing : Probing .n610 ⟨1000, false⟩ (some firstPair) twoMapping 1000 firstPair.2
      firstProbe probe := ⟨by decide +kernel, probeParsed⟩
  have alike : ProbedAlike ⟨1000, false⟩ (some firstPair) firstArguments := by
    rw [ProbedAlike]
    decide +kernel
  exact ⟨plan, probe, restoring, probing,
    (probe_covers_iff placed accepted allowed mem_cons_self restoring probing).mpr alike⟩

def occupiedHost : Host :=
  ⟨(32768, 60999), fun key => if key.port = 9001 then .inUse else .bound⟩

def secondImage : Image := [listener 1 wildcard 8001, listener 2 (hostAddress 2) 5000]

/-- Rotated by 100, a listener of the first unit would need the port which is in use. -/
def crowdedUnits : List Placed :=
  [⟨firstAt "8000" "8000", .n580, occupiedHost, [listener 1 (hostAddress 1) 8901]⟩,
    ⟨secondAt "8000" "8000", .n610, occupiedHost,
      [listener 1 (hostAddress 2) 8000, listener 2 wildcard 5000]⟩]

theorem select_probed_next :
    let := expanded
    selectPortableTCPPortShift (fun attempt => if attempt = 0 then 100 else 200) crowdedUnits
      twoMapping = .ok 200 ∧
    ∃ policy, portableHTTPPortPolicy (crowdedUnits.map (·.pair.1)) (crowdedUnits.map (·.pair.2)) =
        .ok policy ∧ policy.Allows 200 ∧ ∀ unit ∈ crowdedUnits, ∃ value receipt,
      probePlan unit.driver policy ((crowdedUnits.head?).map Placed.pair) twoMapping 200
        unit.pair.2 = .ok (.probe value) ∧
      runTCPProbe unit.host value unit.image = .ok receipt ∧ receipt.available = true := by
  let := expanded
  have selected : selectPortableTCPPortShift (fun attempt => if attempt = 0 then 100 else 200)
      crowdedUnits twoMapping = .ok 200 := by decide +kernel
  refine ⟨selected, select_probed (fun attempt => ?_) selected⟩
  split <;> decide

/-- The restore of the second unit binds port 9001 of the wildcard, which was not probed. -/
theorem probe_misses_second :
    @selectPortableTCPPortShift expanded (fun _ => 1)
      [⟨firstPair, .n610, occupiedHost, [listener 1 (hostAddress 1) 5000]⟩,
        ⟨secondPair, .n610, occupiedHost, secondImage⟩] twoMapping = .ok 1000 ∧
    @restoreKeys expanded .n610 twoMapping 1000 secondPair secondImage =
      some [⟨familyInet, wildcard, 9001, false⟩, ⟨familyInet, hostAddress 4, 6000, false⟩] ∧
    (@probedEndpoints expanded firstProbe secondImage).map
        (fun endpoints => endpoints.map BindEndpoint.key) =
      .ok [⟨familyInet, hostAddress 4, 6000, false⟩] ∧
    @probePlan expanded .n610 ⟨1000, false⟩ (some firstPair) twoMapping 1000 secondPair.2 =
      .ok (.probe firstProbe) := by
  decide +kernel

end Coldsnap.Placement
