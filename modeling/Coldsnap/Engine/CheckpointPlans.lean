import Coldsnap.Foundation.Python
import Mathlib.Data.List.Dedup

/-! # Agreement on checkpoint plans

`MemoryCheckpointPlan.validate` and `agree_checkpoint_plans` of
`integrations/core/coldsnap_core/memory.py`.
-/

namespace Coldsnap.Engine

open Python Checked List

inductive PreservationPolicy where
  | preserve
  | discard
  | recreate
  | external
deriving DecidableEq

def PreservationPolicy.value : PreservationPolicy → String
  | .preserve => "preserve"
  | .discard => "discard"
  | .recreate => "recreate"
  | .external => "external"

inductive MemoryCheckpointAction where
  | retain
  | releaseBacking
  | unmapPages
  | remapPages
  | replayMapping
deriving DecidableEq

def MemoryCheckpointAction.value : MemoryCheckpointAction → String
  | .retain => "retain"
  | .releaseBacking => "release-backing"
  | .unmapPages => "unmap-pages"
  | .remapPages => "remap-pages"
  | .replayMapping => "replay-mapping"

inductive MemoryTransportAction where
  | retain
  | detachRegistrations
  | reattachRegistrations
deriving DecidableEq

def MemoryTransportAction.value : MemoryTransportAction → String
  | .retain => "retain"
  | .detachRegistrations => "detach-registrations"
  | .reattachRegistrations => "reattach-registrations"

structure MemoryCheckpointPlan where
  format : Int
  generation : String
  owner : String
  provider : String
  providerAbi : Int
  layoutDigests : List (String × String)
  policies : List (String × PreservationPolicy)
  actions : List MemoryCheckpointAction
  mappedBytesBefore : Int
  mappedBytesAfter : Int
  reservedBytesBefore : Int
  reservedBytesAfter : Int
  transportActions : List MemoryTransportAction
  participants : List String
  quiescenceEvidence : String
  terminalOnFailure : Bool
  abortSafe : Bool
  planDigest : String
deriving DecidableEq

/-- `_canonical_digest`. -/
class Digests where
  canonicalDigest : Json → String

namespace MemoryCheckpointPlan

variable (plan : MemoryCheckpointPlan)

def fields : Json :=
  .obj [("format", .int plan.format), ("generation", .str plan.generation),
    ("owner", .str plan.owner), ("provider", .str plan.provider),
    ("provider_abi", .int plan.providerAbi),
    ("layout_digests", .arr (plan.layoutDigests.map fun item => .arr [.str item.1, .str item.2])),
    ("policies", .arr (plan.policies.map fun item => .arr [.str item.1, .str item.2.value])),
    ("actions", .arr (plan.actions.map fun action => .str action.value)),
    ("mapped_bytes_before", .int plan.mappedBytesBefore),
    ("mapped_bytes_after", .int plan.mappedBytesAfter),
    ("reserved_bytes_before", .int plan.reservedBytesBefore),
    ("reserved_bytes_after", .int plan.reservedBytesAfter),
    ("transport_actions", .arr (plan.transportActions.map fun action => .str action.value)),
    ("participants", .arr (plan.participants.map .str)),
    ("quiescence_evidence", .str plan.quiescenceEvidence),
    ("terminal_on_failure", .bool plan.terminalOnFailure), ("abort_safe", .bool plan.abortSafe)]

def validate [Digests] : Checked Unit := do
  require (plan.format = 1 && plan.generation ≠ "" && plan.owner ≠ "" && plan.provider ≠ "" &&
      0 < plan.providerAbi && plan.layoutDigests ≠ [] && plan.participants ≠ [] &&
      sortedOn id plan.participants.dedup = plan.participants &&
      plan.participants.contains plan.owner && plan.quiescenceEvidence ≠ "" &&
      plan.actions ≠ [] && sortedOn toLex plan.layoutDigests.dedup = plan.layoutDigests &&
      sortedOn (fun item => toLex (item.1, item.2.value)) plan.policies.dedup = plan.policies &&
      (plan.layoutDigests.map Prod.fst).dedup.length = plan.layoutDigests.length &&
      (plan.policies.map Prod.fst).dedup.length = plan.policies.length &&
      sameSet (plan.layoutDigests.map Prod.fst) (plan.policies.map Prod.fst) &&
      plan.actions.dedup.length = plan.actions.length &&
      plan.transportActions.dedup.length = plan.transportActions.length &&
      [plan.mappedBytesBefore, plan.mappedBytesAfter, plan.reservedBytesBefore,
        plan.reservedBytesAfter].all (0 ≤ ·))
    (valueError "memory checkpoint plan is invalid")
  require (plan.planDigest = Digests.canonicalDigest plan.fields)
    (valueError "memory checkpoint plan digest does not match plan")

/-- The fields which the plans share, as `agree_checkpoint_plans` collects them. -/
structure Common where
  generation : String
  provider : String
  providerAbi : Int
  policies : List (String × PreservationPolicy)
  actions : List MemoryCheckpointAction
  transportActions : List MemoryTransportAction
  participants : List String
  terminalOnFailure : Bool
  abortSafe : Bool
deriving DecidableEq

def common : Common :=
  ⟨plan.generation, plan.provider, plan.providerAbi, plan.policies, plan.actions,
    plan.transportActions, plan.participants, plan.terminalOnFailure, plan.abortSafe⟩

end MemoryCheckpointPlan

variable [Digests]

variable (plans : List MemoryCheckpointPlan)

def receipt : String :=
  Digests.canonicalDigest (.obj [("format", .int 1),
    ("kind", .str "coldsnap-memory-checkpoint-plan-agreement"),
    ("plans", .arr ((sortedOn toLex (plans.map fun plan => (plan.owner, plan.planDigest))).map
      fun pair => .arr [.str pair.1, .str pair.2]))])

def agreeCheckpointPlans : Checked String :=
  match plans with
  | [] => .error (runtimeError "distributed checkpoint has no participant plans")
  | first :: _ => do
    plans.forM fun plan => plan.validate
    require (plans.all (fun plan => decide (plan.common = first.common)) &&
        plans.length = first.participants.length &&
        sameSet (plans.map MemoryCheckpointPlan.owner) first.participants)
      (runtimeError ("distributed memory checkpoint plans disagree on policy, generation, " ++
        "or participants"))
    return receipt plans

/-- What every order of the plans shares. -/
structure Agreed (plans : List MemoryCheckpointPlan) : Prop where
  nonempty : plans ≠ []
  valid : ∀ plan ∈ plans, plan.validate = .ok ()
  agree : ∀ plan ∈ plans, ∀ other ∈ plans, plan.common = other.common
  owners : ∀ plan ∈ plans, (plans.map MemoryCheckpointPlan.owner).Perm plan.participants

theorem participants_nodup {plan : MemoryCheckpointPlan} (valid : plan.validate = .ok ()) :
    plan.participants.Nodup := by
  simp only [MemoryCheckpointPlan.validate, bind_eq_ok, require_eq_ok, Bool.and_eq_true,
    decide_eq_true_eq] at valid
  rcases valid with ⟨_, ⟨⟨⟨⟨⟨⟨⟨⟨⟨⟨⟨⟨_, sorted⟩, _⟩, _⟩, _⟩, _⟩, _⟩, _⟩, _⟩, _⟩, _⟩, _⟩, _⟩, _⟩
  rw [← sorted]
  exact (sortedOn_perm _ _).nodup_iff.mpr (nodup_dedup _)

theorem agree_ok_iff (result : String) :
    agreeCheckpointPlans plans = .ok result ↔ Agreed plans ∧ receipt plans = result := by
  cases plans with
  | nil =>
    refine ⟨fun returned => ?_, fun agreed => absurd rfl agreed.1.nonempty⟩
    cases returned
  | cons first rest =>
    simp only [agreeCheckpointPlans, bind_eq_ok, forM_eq_ok, require_eq_ok, Bool.and_eq_true,
      all_eq_true, decide_eq_true_eq, sameSet_iff, pure_eq_ok]
    constructor
    · rintro ⟨_, valid, _, ⟨⟨agree, length⟩, owners⟩, equal⟩
      have perm : first.participants.Perm ((first :: rest).map MemoryCheckpointPlan.owner) := by
        have nodup := participants_nodup (valid first mem_cons_self)
        refine (subperm_of_subset nodup fun owner => (owners owner).mpr).perm_of_length_le ?_
        rw [length_map, length]
      refine ⟨⟨cons_ne_nil _ _, valid, ?_, ?_⟩, equal⟩
      · exact fun plan member other present =>
          (agree plan member).trans (agree other present).symm
      · intro plan member
        have same : plan.participants = first.participants :=
          congrArg MemoryCheckpointPlan.Common.participants (agree plan member)
        rw [same]
        exact perm.symm
    · rintro ⟨agreed, equal⟩
      have owners := agreed.owners first mem_cons_self
      have length : (first :: rest).length = first.participants.length := by
        rw [← owners.length_eq, length_map]
      exact ⟨(), agreed.valid, (),
        ⟨⟨fun plan member => agreed.agree plan member first mem_cons_self, length⟩,
          fun owner => owners.mem_iff⟩, equal⟩

/-- The order of the plans plays no part. -/
theorem Agreed.of_perm {plans others : List MemoryCheckpointPlan} (perm : plans.Perm others)
    (agreed : Agreed plans) : Agreed others ∧ receipt others = receipt plans := by
  refine ⟨⟨?_, ?_, ?_, ?_⟩, ?_⟩
  · rintro rfl
    exact agreed.nonempty perm.eq_nil
  · exact fun plan member => agreed.valid plan (perm.mem_iff.mpr member)
  · exact fun plan member other present =>
      agreed.agree plan (perm.mem_iff.mpr member) other (perm.mem_iff.mpr present)
  · exact fun plan member => (perm.map MemoryCheckpointPlan.owner).symm.trans
      (agreed.owners plan (perm.mem_iff.mpr member))
  · have sorted := sortedOn_keys ((perm.map fun plan => (plan.owner, plan.planDigest)).map toLex)
    rw [receipt, receipt, map_injective_iff.mpr toLex.injective sorted]

/-- An agreement is reached only on valid plans which share what they must, one for every
participant, and its receipt does not depend on their order. -/
theorem agree_iff_perm (result : String) :
    (agreeCheckpointPlans plans = .ok result ↔ Agreed plans ∧ receipt plans = result) ∧
      ∀ others, plans.Perm others →
        (agreeCheckpointPlans plans = .ok result ↔ agreeCheckpointPlans others = .ok result) := by
  refine ⟨agree_ok_iff plans result, fun others perm => ?_⟩
  rw [agree_ok_iff, agree_ok_iff]
  constructor
  · rintro ⟨agreed, rfl⟩
    exact agreed.of_perm perm
  · rintro ⟨agreed, rfl⟩
    exact agreed.of_perm perm.symm

end Coldsnap.Engine
