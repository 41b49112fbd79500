import Coldsnap.Placement.Connections

/-! # Serving listeners

A listener on the port which the captured command names is restored on the port which the
requested command names, if the rank controller reads the same port from the captured
command as the adapter.
-/

namespace Coldsnap.Placement

open Go Python Address List Netip

section Listeners

variable [Netip]

/-- A listener on the serving port of a unit, on the wildcard or on the address of the unit. -/
structure ServingListener (unit : LaunchUnit) (socket : InetSocket) : Prop where
  tcp : socket.proto = protoTCP
  port : socket.srcPort = httpPort unit.command
  address : ∃ source destination, Described socket source destination ∧
    (source.isUnspecified = true ∨ rankPlacementAddress unit = .ok source.unmap)

/-- Every serving listener of the unit ends on the requested port, whatever else the image
holds. -/
def ServesRequested (plan : Plan) (pair : UnitPair) : Prop :=
  ∀ {image : Image} {rewriting : Rewriting} {index : Nat} {socket : InetSocket},
    rewriteTCPSocketEndpoints plan image = .ok rewriting → image[index]? = some socket →
    ServingListener pair.1 socket →
    ∃ restored, rewriting.image[index]? = some restored ∧ restored.srcPort = httpPort pair.2.command

section Unread

variable {addressMapping : List String} {shift : Nat} {pair : UnitPair} {driver : Driver}
  {args : RankArguments} {plan : Plan}

variable (restoring : Restoring driver addressMapping shift pair args plan)
  (mapped : addressMapping ≠ []) {old : Address} (maps : plan.maps old = true)

include restoring mapped maps

/-- The serving port stays, but nothing spares it from the rotation. -/
theorem not_serves_of_preserved (found : rankPlacementAddress pair.1 = .ok old)
    (unread : args.capturedHttpPort ≠ httpPort pair.1.command)
    (stays : httpPort pair.1.command = httpPort pair.2.command) (positive : 0 < shift)
    (bound : shift ≤ 64511) : ¬ ServesRequested plan pair := by
  intro serves
  have moved : args.capturedHttpPort ≠ args.httpPort := by
    rw [restoring.arguments.2.2.1, ← stays]
    exact unread
  have high := ((restoring.follows mapped).moved_high moved).2
  rw [restoring.arguments.2.2.1, ← stays] at high
  have rankListener : ServingListener pair.1 (listener 1 old (httpPort pair.1.command)) := by
    rcases listener_described 1 old (httpPort pair.1.command) with
      ⟨tcp, port, destination, described⟩
    exact ⟨tcp, port, old, destination, described,
      .inr (by rw [(rankPlacementAddress_ok found).1]; exact found)⟩
  rcases @listeners_rewritten [listener 1 old (httpPort pair.1.command)] plan
    (fun socket inside => ⟨1, old, _, mem_singleton.mp inside⟩)
    ⟨1, old, _, mem_cons_self, maps⟩ with ⟨rewriting, done⟩
  rcases @serves _ rewriting 0 _ done rfl rankListener with ⟨restored, ends, port⟩
  rw [@listener_restored plan old _ _ rewriting done 0 1 rfl restored ends, Plan.localPort,
    restoring.other_port mapped (Ne.symm unread), Plan.rotatesLocal, maps, Bool.true_or,
    if_pos rfl, ← stays] at port
  exact rotate_ne high positive bound port

/-- The serving port moves, but a listener on the wildcard is left where it is. -/
theorem not_serves_of_moved (unread : args.capturedHttpPort ≠ httpPort pair.1.command)
    (high : 1024 ≤ (httpPort pair.1.command).val)
    (rotates : rotatePortableTCPPort (httpPort pair.1.command) shift = httpPort pair.2.command)
    (positive : 0 < shift) (bound : shift ≤ 64511) : ¬ ServesRequested plan pair := by
  intro serves
  have outside : plan.maps wildcard = false := Plan.maps_of_unportable rfl
  let image : Image := [listener 1 wildcard (httpPort pair.1.command), listener 2 old 0]
  have listeners : ∀ socket ∈ image, ∃ id address port, socket = listener id address port :=
    forall_mem_cons.mpr ⟨⟨_, _, _, rfl⟩, forall_mem_singleton.mpr ⟨_, _, _, rfl⟩⟩
  have servingListener :
      ServingListener pair.1 (listener 1 wildcard (httpPort pair.1.command)) := by
    rcases listener_described 1 wildcard (httpPort pair.1.command) with
      ⟨tcp, port, destination, described⟩
    exact ⟨tcp, port, wildcard, destination, described, .inl rfl⟩
  rcases listeners_rewritten plan listeners
    ⟨2, old, 0, mem_cons_of_mem _ mem_cons_self, maps⟩ with ⟨rewriting, done⟩
  rcases @serves image rewriting 0 _ done rfl servingListener with ⟨restored, ends, port⟩
  have absent : (exchangePort plan.portMapping (httpPort pair.1.command)).1 ∉
      mappedLocalPorts plan.mapping image := by
    intro listed
    exact unmapped_listeners outside (mem_mappedLocalPorts.mp listed)
  rw [@listener_restored plan wildcard _ image rewriting done 0 1 rfl restored ends,
    Plan.localPort, restoring.other_port mapped (Ne.symm unread), Plan.rotatesLocal, outside,
    decide_eq_false absent, Bool.and_false, Bool.or_false, if_neg Bool.false_ne_true] at port
  exact rotate_ne high positive bound (rotates.trans port.symm)

end Unread

/-- Serving listeners end on the requested port exactly if the rank controller reads the
captured command as the adapter does. -/
theorem serves_requested_iff {captured requested : List LaunchUnit} {addressMapping : List String}
    (placed : placementTCPAddressMap captured requested = .ok addressMapping)
    {policy : PortPolicy} (accepted : portableHTTPPortPolicy captured requested = .ok policy)
    {shift : Nat} (allowed : policy.Allows shift) {pair : UnitPair}
    (member : pair ∈ captured.zip requested) {driver : Driver} {args : RankArguments}
    {plan : Plan} (restoring : Restoring driver addressMapping shift pair args plan) :
    ServesRequested plan pair ↔ args.capturedHttpPort = httpPort pair.1.command := by
  rcases placement_listed placed member with ⟨old, new, oldFound, newFound, listed⟩
  have mapped := ne_nil_of_mem listed
  have requestedPort := restoring.arguments.2.2.1
  have bound : shift ≤ 64511 := restoring.shift_eq mapped ▸ plan.shiftBound
  constructor
  · intro serves
    by_contra unread
    rcases policy_fits accepted with ⟨fit, preserves⟩
    have fits := fit pair member
    have lookup := restoring.lookup mapped listed
    have maps := Plan.maps_iff.mpr ⟨_, lookup⟩
    cases preserved : policy.preserve with
    | true =>
      have still := preserves.mp preserved
      rw [PortPolicy.Allows, preserved, if_pos rfl] at allowed
      exact not_serves_of_preserved restoring mapped maps oldFound unread
        (Fits.stays (still ▸ fits)) allowed.1 bound serves
    | false =>
      rw [PortPolicy.Allows, preserved, if_neg Bool.false_ne_true] at allowed
      have nonzero : shift ≠ 0 := by
        intro zero
        rw [zero] at allowed
        rw [preserves.mpr allowed.symm] at preserved
        cases preserved
      have high : 1024 ≤ (httpPort pair.1.command).val ∧ 1024 ≤ (httpPort pair.2.command).val := by
        by_contra low
        have privileged : (httpPort pair.1.command).val < 1024 ∨
            (httpPort pair.2.command).val < 1024 := by omega
        have same := fits.1 privileged
        have moved : args.capturedHttpPort ≠ args.httpPort := by
          rw [requestedPort, ← same]
          exact unread
        have requestedHigh := ((restoring.follows mapped).moved_high moved).2
        rw [requestedPort] at requestedHigh
        rw [same] at privileged
        omega
      have rotates := Fits.rotates fits high.1
      rw [← allowed] at rotates
      exact not_serves_of_moved restoring mapped maps unread high.1 rotates
        (Nat.pos_of_ne_zero nonzero) bound serves
  · intro read image rewriting index socket done found serving
    rcases serving.address with ⟨source, destination, described, _⟩
    refine ⟨_, rewrite_socket done found serving.tcp described, ?_⟩
    rw [Plan.rewritten, Plan.localPort, serving.port, ← read,
      (restoring.follows mapped).serving_port]
    exact requestedPort

end Listeners

/-! ## Commands -/

/-- A unit on `10.0.0.1` which serves on port 8000 is restored on `10.0.0.3`. -/
theorem serves_requested_plain :
    ∃ plan, @ServesRequested expanded plan (firstAt "8000" "8000") := by
  let := expanded
  let args : RankArguments := ⟨["10.0.0.1=10.0.0.3"], 100, 8000, 8000⟩
  rcases exists_of_isOk (show (parseOptions (criuCommand .n580 args)).isOk by decide +kernel) with
    ⟨plan, parsed⟩
  have restoring : Restoring .n580 ["10.0.0.1=10.0.0.3"] 100 (firstAt "8000" "8000") args plan :=
    ⟨by decide +kernel, parsed⟩
  have placed : placementTCPAddressMap [servingUnit 0 "10.0.0.1" "8000"]
      [servingUnit 0 "10.0.0.3" "8000"] = .ok ["10.0.0.1=10.0.0.3"] := by decide +kernel
  have accepted : portableHTTPPortPolicy [servingUnit 0 "10.0.0.1" "8000"]
      [servingUnit 0 "10.0.0.3" "8000"] = .ok ⟨0, true⟩ := by decide +kernel
  have allowed : PortPolicy.Allows ⟨0, true⟩ 100 := by
    unfold PortPolicy.Allows
    decide
  exact ⟨plan, (serves_requested_iff placed accepted allowed mem_cons_self restoring).mpr
    (by decide +kernel)⟩

def oddUnit (host : String) : LaunchUnit :=
  ⟨"unit-0", 0, host, [], ["vllm", "serve", "model\u00a0--port 9000"]⟩

/-- The adapter reads port 8000 from the command and the rank controller reads 9000. -/
theorem serves_another_port :
    @placementTCPAddressMap expanded [oddUnit "10.0.0.1"] [oddUnit "10.0.0.3"] =
      .ok ["10.0.0.1=10.0.0.3"] ∧
    portableHTTPPortPolicy [oddUnit "10.0.0.1"] [oddUnit "10.0.0.3"] = .ok ⟨0, true⟩ ∧
    httpPort (oddUnit "10.0.0.1").command = 8000 ∧
    commandHttpPort (oddUnit "10.0.0.1").command = .ok 9000 ∧
    @restoreImage expanded .n610 ["10.0.0.1=10.0.0.3"] 100
      (oddUnit "10.0.0.1", oddUnit "10.0.0.3") [listener 1 (hostAddress 1) 8000] =
        some [listener 1 (hostAddress 3) 8100] := by
  decide +kernel

end Coldsnap.Placement
