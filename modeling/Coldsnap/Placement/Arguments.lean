import Coldsnap.Placement.Launches
import Coldsnap.Placement.Rewriting

/-! # What the arguments of a restore amount to

An accepted launch fixes the address map. In the restore of a unit, its captured serving port
becomes the requested one, and all other ports of mapped endpoints are rotated.
-/

namespace Coldsnap.Placement

open Go Python Address

def PortPolicy.Fits (shift : Nat) (pair : UnitPair) : Prop :=
  let before := httpPort pair.1.command
  let after := httpPort pair.2.command
  (before.val < 1024 ∨ after.val < 1024 → before = after) ∧
    (1024 ≤ before.val → 1024 ≤ after.val → shiftBetween before after = shift)

variable {pair : UnitPair}

theorem policyStep_ok {state next : Nat × Nat} (stepped : policyStep state pair = .ok next) :
    next.1 = state.1 + 1 ∧ (0 < state.1 → next.2 = state.2) ∧ PortPolicy.Fits next.2 pair := by
  unfold policyStep at stepped
  unfold PortPolicy.Fits
  generalize httpPort pair.1.command = before at stepped ⊢
  generalize httpPort pair.2.command = after at stepped ⊢
  by_cases privileged : before.val < 1024 ∨ after.val < 1024
  · have first := if_pos privileged ▸ stepped
    simp only [bind_eq_ok, check_eq_ok, decide_eq_true_eq, pure_eq_ok] at first
    rcases first with ⟨_, same, rfl⟩
    refine ⟨rfl, fun _ => rfl, fun _ => same, ?_⟩
    intro low high
    exact absurd privileged (by omega)
  · have second := if_neg privileged ▸ stepped
    by_cases begins : state.1 = 0
    · rw [if_pos begins] at second
      simp only [pure_eq_ok] at second
      rw [← second]
      refine ⟨rfl, ?_, fun low => absurd low privileged, fun _ _ => rfl⟩
      intro later
      exact absurd later (by omega)
    · rw [if_neg begins] at second
      simp only [bind_eq_ok, check_eq_ok, decide_eq_true_eq, pure_eq_ok] at second
      rcases second with ⟨_, same, rfl⟩
      exact ⟨rfl, fun _ => rfl, fun low => absurd low privileged, fun _ _ => same.symm⟩

/-- All units fit the policy, and ports are preserved exactly if no rotation is fixed. -/
theorem policy_fits {captured requested : List LaunchUnit} {policy : PortPolicy}
    (accepted : portableHTTPPortPolicy captured requested = .ok policy) :
    (∀ pair ∈ captured.zip requested, PortPolicy.Fits policy.fixedShift pair) ∧
      (policy.preserve = true ↔ policy.fixedShift = 0) := by
  simp only [portableHTTPPortPolicy, bind_eq_ok, pure_eq_ok] at accepted
  rcases accepted with ⟨_, _, final, looped, selected⟩
  have fits := forEach_establishes
    (fun (pair : UnitPair) (state : Nat × Nat) => 0 < state.1 ∧ PortPolicy.Fits state.2 pair)
    (fun stepped => by
      rcases policyStep_ok stepped with ⟨index, _, fit⟩
      exact ⟨by omega, fit⟩)
    (fun reached stepped => by
      rcases policyStep_ok stepped with ⟨index, kept, _⟩
      rw [kept reached.1]
      exact ⟨by omega, reached.2⟩) looped
  have shift : policy.fixedShift = final.2 := by
    rw [← selected]
    split
    · rename_i zero
      exact zero.symm
    · rfl
  refine ⟨?_, ?_⟩
  · intro pair member
    rw [shift]
    exact (fits pair member).2
  · rw [shift, ← selected]
    split
    · rename_i zero
      simp [zero]
    · rename_i nonzero
      simp [nonzero]

def PortPolicy.Allows (policy : PortPolicy) (shift : Nat) : Prop :=
  if policy.preserve then 1 ≤ shift ∧ shift ≤ 64511 else shift = policy.fixedShift

theorem Fits.rotates {shift : Nat} (fits : PortPolicy.Fits shift pair)
    (low : 1024 ≤ (httpPort pair.1.command).val) :
    rotatePortableTCPPort (httpPort pair.1.command) shift = httpPort pair.2.command := by
  by_cases high : 1024 ≤ (httpPort pair.2.command).val
  · rw [← fits.2 low high]
    exact rotate_shiftBetween low high
  · have same := fits.1 (.inr (Nat.lt_of_not_le high))
    rw [← same] at high
    exact absurd low high

theorem Fits.stays (fits : PortPolicy.Fits 0 pair) :
    httpPort pair.1.command = httpPort pair.2.command := by
  by_cases low : (httpPort pair.1.command).val < 1024 ∨ (httpPort pair.2.command).val < 1024
  · exact fits.1 low
  · have high := not_or.mp low
    exact (shiftBetween_eq_zero (Nat.le_of_not_lt high.1) (Nat.le_of_not_lt high.2)).mp
      (fits.2 (Nat.le_of_not_lt high.1) (Nat.le_of_not_lt high.2))

section Placing

variable [Netip]

theorem rankPlacementAddress_ok {unit : LaunchUnit} {address : Address}
    (found : rankPlacementAddress unit = .ok address) :
    address.unmap = address ∧ portablePlacementAddress address = true := by
  unfold rankPlacementAddress at found
  split at found
  · cases found
  · simp only [bind_eq_ok, check_eq_ok, pure_eq_ok] at found
    rcases found with ⟨_, portable, equal⟩
    rw [← equal]
    exact ⟨unmap_unmap _, portable⟩

/-- The addresses of a unit are listed. -/
def Listed (pair : UnitPair) (mapping : List String) : Prop :=
  ∃ old new, rankPlacementAddress pair.1 = .ok old ∧ rankPlacementAddress pair.2 = .ok new ∧
    mappingText old new ∈ mapping

theorem placeUnit_ok {state next : PlacementState} (placed : placeUnit state pair = .ok next) :
    state.result ⊆ next.result ∧ Listed pair next.result := by
  simp only [placeUnit, bind_eq_ok, within_eq_ok, pure_eq_ok] at placed
  rcases placed with ⟨old, oldFound, new, newFound, _, _, _, _, _, _, equal⟩
  rw [← equal]
  split
  · rename_i listed
    exact ⟨.refl _, old, new, oldFound, newFound, listed⟩
  · exact ⟨List.subset_append_left _ _, old, new, oldFound, newFound, by simp⟩

theorem placement_listed {captured requested : List LaunchUnit} {addressMapping : List String}
    (placed : placementTCPAddressMap captured requested = .ok addressMapping)
    (member : pair ∈ captured.zip requested) : Listed pair addressMapping := by
  simp only [placementTCPAddressMap, bind_eq_ok, pure_eq_ok] at placed
  rcases placed with ⟨_, _, final, looped, equal⟩
  rw [← equal]
  exact forEach_establishes (fun pair (state : PlacementState) => Listed pair state.result)
    (fun turned => (placeUnit_ok turned).2)
    (fun reached turned => by
      rcases reached with ⟨old, new, oldFound, newFound, listed⟩
      exact ⟨old, new, oldFound, newFound, (placeUnit_ok turned).1 listed⟩) looped pair member

end Placing

/-- Where the restore of a unit sends a port: the captured serving port to the requested one,
others by the rotation. -/
def RankArguments.restoredPort (args : RankArguments) (port : Port) : Port :=
  if port = args.capturedHttpPort then args.httpPort
  else rotatePortableTCPPort port args.tcpPortShift

def exchangeWith (pairing : Option (Port × Port)) (port : Port) : Port × Bool :=
  match pairing with
  | some (source, destination) => if port = source then (destination, true) else (port, false)
  | none => (port, false)

theorem exchangePort_eq {mapping : Option PortMapping} {pairing : Option (Port × Port)}
    (parsed : parseTCPPortMap pairing = .ok mapping) (port : Port) :
    exchangePort mapping port = exchangeWith pairing port := by
  rw [← parseTCPPortMap_ok parsed]
  cases mapping <;> rfl

section Plans

variable [Netip]

namespace Plan.Follows

variable {args : RankArguments} {allowEmptyMap : Bool} {plan : Plan}

section

variable (follows : plan.Follows (portOptions args allowEmptyMap))

include follows

/-- Whether the port map applies to a port, and where it sends it. -/
theorem exchanges (port : Port) :
    exchangePort plan.portMapping port =
      if port = args.capturedHttpPort ∧ args.capturedHttpPort ≠ args.httpPort then
        (args.httpPort, true)
      else (port, false) := by
  rw [exchangePort_eq follows.portMapping port]
  by_cases moved : args.capturedHttpPort ≠ args.httpPort
  · simp [portOptions, exchangeWith, moved]
  · simp [portOptions, exchangeWith, moved]

/-- Only unprivileged serving ports are moved. -/
theorem moved_high (moved : args.capturedHttpPort ≠ args.httpPort) :
    1024 ≤ args.capturedHttpPort.val ∧ 1024 ≤ args.httpPort.val := by
  have parsed := follows.portMapping
  simp only [portOptions, if_pos moved, parseTCPPortMap] at parsed
  split at parsed
  · rename_i valid
    exact ⟨valid.1, valid.2.1⟩
  · cases parsed

theorem rotates {port : Port} (other : args.capturedHttpPort = args.httpPort → port ≠ args.httpPort)
    : (plan.rotate true port).1 = rotatePortableTCPPort port args.tcpPortShift := by
  have shifts : plan.portShift = args.tcpPortShift := follows.portShift
  rw [← shifts]
  apply Plan.rotate_applied
  intro high
  rw [follows.preservePort, portOptions]
  simp only
  split
  · rename_i spared
    exact fun same => other spared.2 (Fin.ext same)
  · omega

/-- The captured serving port always becomes the requested one. -/
theorem serving_port (applies : Bool) :
    plan.port applies args.capturedHttpPort = args.httpPort := by
  have exchanged := follows.exchanges args.capturedHttpPort
  unfold Plan.port
  by_cases moved : args.capturedHttpPort ≠ args.httpPort
  · rw [if_pos (.intro rfl moved)] at exchanged
    rw [exchanged]
    rfl
  · have same := not_not.mp moved
    rw [if_neg (fun both => both.2 same)] at exchanged
    rw [exchanged, if_neg Bool.false_ne_true]
    unfold Plan.rotate
    rw [if_neg]
    · exact same
    · intro ⟨shifted, _, _, different⟩
      rw [follows.portShift, portOptions] at shifted
      rw [follows.preservePort, portOptions] at different
      exact different (by rw [if_pos ⟨shifted, same⟩, same])

theorem other_port {port : Port} (other : port ≠ args.capturedHttpPort) (applies : Bool) :
    plan.port applies port =
      if applies then rotatePortableTCPPort port args.tcpPortShift else port := by
  have exchanged := follows.exchanges port
  rw [if_neg (fun both => other both.1)] at exchanged
  rw [Plan.port, exchanged, if_neg Bool.false_ne_true]
  cases applies with
  | true => exact follows.rotates fun same => same ▸ other
  | false =>
    unfold Plan.rotate
    rw [if_neg (fun both => by cases both.2.1)]
    rfl

/-- What becomes of the ports of mapped endpoints. -/
theorem mapped_port (port : Port) : plan.port true port = args.restoredPort port := by
  unfold RankArguments.restoredPort
  split
  · rename_i serving
    rw [serving]
    exact follows.serving_port true
  · rename_i other
    rw [follows.other_port other]
    rfl

end

end Plan.Follows

structure Restoring (driver : Driver) (addressMapping : List String) (shift : Nat)
    (pair : UnitPair) (args : RankArguments) (plan : Plan) : Prop where
  read : rankArguments addressMapping shift pair = .ok args
  parsed : parseOptions (criuCommand driver args) = .ok plan

namespace Restoring

variable {driver : Driver} {addressMapping : List String} {shift : Nat} {pair : UnitPair}
  {args : RankArguments} {plan : Plan}

section

variable (restoring : Restoring driver addressMapping shift pair args plan)

include restoring

theorem arguments :
    args.tcpAddressMap = addressMapping ∧ args.tcpPortShift = shift ∧
      args.httpPort = httpPort pair.2.command ∧
      commandHttpPort pair.1.command = .ok args.capturedHttpPort := by
  have read := restoring.read
  simp only [rankArguments, bind_eq_ok, pure_eq_ok] at read
  rcases read with ⟨captured, found, equal⟩
  rw [← equal]
  exact ⟨rfl, rfl, rfl, found⟩

section

variable (mapped : addressMapping ≠ [])

include mapped

/-- Both controllers build the same options for a map with entries. -/
theorem follows : plan.Follows (portOptions args (decide (driver = .n580))) := by
  have some : args.tcpAddressMap ≠ [] := restoring.arguments.1.symm ▸ mapped
  have follows := parseOptions_follows restoring.parsed
  cases driver with
  | n610 => rwa [criuCommand, if_neg some] at follows
  | n580 =>
    rw [criuCommand, decide_eq_true some] at follows
    exact follows

theorem shift_eq : plan.portShift = shift := by
  rw [(restoring.follows mapped).portShift]
  exact restoring.arguments.2.1

theorem lookup {old new : Address} (listed : mappingText old new ∈ addressMapping) :
    plan.mapping.lookup old.unmap = some new.unmap := by
  have parsed := (restoring.follows mapped).mapping
  rw [portOptions, restoring.arguments.1] at parsed
  exact parseTCPAddressMap_lookup parsed listed

theorem other_port {port : Port} (other : port ≠ args.capturedHttpPort) (applies : Bool) :
    plan.port applies port = if applies then rotatePortableTCPPort port shift else port := by
  rw [(restoring.follows mapped).other_port other, restoring.arguments.2.1]

end

end

end Restoring

end Plans

end Coldsnap.Placement
