import Coldsnap.GraphMemory.Resumption
import Mathlib.Algebra.Order.BigOperators.Group.List
import Mathlib.Algebra.Order.Ring.Nat

/-! # Runs of the graph memory allocator

The records agree with the driver in every run in which no unmap outside
`allocate_scoped` fails and the release after failed access rights does not fail
either; a failed unmap in `pause_allocation` is enough to break both the
agreement and the next resume.
-/

namespace Coldsnap.GraphMemory

open Intervals Program List Driver

/-- What a promise asks of every schedule of a run. -/
def Promise.Respects (promise : Promise) (calls : List (Call × Schedule)) : Prop :=
  ∀ call ∈ calls, ∀ entry ∈ call.2, promise.Plan entry

variable {promise : Promise} {hardware : Hardware}

theorem Call.perform_keeps (calmless : ¬promise.calm) (call : Call)
    : promise.Preserves hardware (call.perform hardware) := by
  have discards : ∀ {α : Type} {program : Action α}, promise.Preserves hardware program →
      promise.Preserves hardware (Program.bind program fun _ => Program.pure ()) :=
    fun keeps => .bind keeps fun _ => .pure fun _ => id
  cases call with
  | regionPush thread tag device poolId => exact discards regionPush_keeps
  | regionPop thread => exact discards regionPop_keeps
  | malloc thread size => exact discards cudaMalloc_keeps
  | free thread pointer => exact discards cudaFree_keeps
  | pause thread tag device => exact discards graphPause_keeps
  | resume thread tag device =>
    apply discards
    apply Triple.pinned
    intro start starts
    apply Triple.consequence (graphResume_keeps starts fun calm => absurd calm calmless)
      (fun _ => id) (fun _ => id) _ fun _ _ impossible => impossible.elim
    rintro code now (⟨_, progress⟩ | ⟨_, halted⟩)
    · exact progress.sound
    · exact halted.sound
  | select thread device =>
    exact ignoring_keeps (cudaSetDevice_keeps (fun _ _ => id) (.blind promise hardware))

theorem runCalls_sound (calmless : ¬promise.calm) {calls : List (Call × Schedule)}
    (respects : promise.Respects calls) :
    Sound promise hardware (runCalls hardware World.initial calls) := by
  suffices general : ∀ world, Sound promise hardware world →
      Sound promise hardware (runCalls hardware world calls) from
    general _ (.initial promise hardware)
  induction calls with
  | nil => exact fun _ => id
  | cons call rest induction =>
    intro world sound
    apply induction (forall_mem_cons.mp respects).2
    have ran := (Call.perform_keeps calmless call.1 world call.2 sound
      (respects call mem_cons_self)).2.2
    revert ran
    cases (call.1.perform hardware world call.2).result <;> exact id

/-- Whatever calls of the driver fail, the ranges of two records never overlap, and no two
records hold the same memory. -/
theorem runCalls_apart (hardware : Hardware) (calls : List (Call × Schedule)) :
    (runCalls hardware World.initial calls).allocations.Pairwise fun left right =>
      Apart (left.address, left.address + left.mappedSize)
        (right.address, right.address + right.mappedSize) ∧
      ¬(left.handleValid = true ∧ right.handleValid = true ∧ left.handle = right.handle) := by
  let promise : Promise := ⟨False, False, False⟩
  have sound : Sound promise hardware (runCalls hardware World.initial calls) :=
    runCalls_sound id fun _ _ _ _ => ⟨False.elim, False.elim, False.elim⟩
  apply (pairwise_map.mp sound.distinct).imp_of_mem
  intro left right leftListed rightListed different
  rcases sound.faithful left leftListed with ⟨leftRange, leftReserved, leftFaithful⟩
  rcases sound.faithful right rightListed with ⟨rightRange, rightReserved, rightFaithful⟩
  have apart := sound.laid.apart different leftReserved rightReserved
  rw [leftFaithful.sized, rightFaithful.sized] at apart
  refine ⟨apart, fun both => different ?_⟩
  have held := rightFaithful.held both.2.1
  rw [← both.2.2] at held
  exact sound.owned.once leftReserved rightReserved (leftFaithful.held both.1) held

def recordSums (world : World) (tag : String) (device : Int) : Stats :=
  let selected := world.allocations.filter (·.isSelected tag device)
  { allocationCount := selected.length
    rawBytes := (selected.map Allocation.rawSize).sum
    mappedBytes := (selected.map Allocation.mappedSize).sum
    pausedCount := (selected.filter (·.state != .active)).length }

theorem Stats.foldl_count (allocations : List Allocation) : ∀ stats : Stats,
    stats.allocationCount + allocations.length < addressSpace →
    stats.rawBytes + (allocations.map Allocation.rawSize).sum < addressSpace →
    stats.mappedBytes + (allocations.map Allocation.mappedSize).sum < addressSpace →
    stats.pausedCount + allocations.length < addressSpace →
    allocations.foldl Stats.count stats =
      { allocationCount := stats.allocationCount + allocations.length
        rawBytes := stats.rawBytes + (allocations.map Allocation.rawSize).sum
        mappedBytes := stats.mappedBytes + (allocations.map Allocation.mappedSize).sum
        pausedCount := stats.pausedCount + (allocations.filter (·.state != .active)).length } := by
  induction allocations with
  | nil => intros; rfl
  | cons allocation rest induction =>
    intro stats counted raw mapped paused
    simp only [length_cons, map_cons, sum_cons] at counted raw mapped paused
    have sums : ∀ {left right}, left + right < addressSpace →
        addCounter left right = left + right := Nat.mod_eq_of_lt
    have step : stats.count allocation =
        ⟨stats.allocationCount + 1, stats.rawBytes + allocation.rawSize,
          stats.mappedBytes + allocation.mappedSize,
          stats.pausedCount + if allocation.state != .active then 1 else 0⟩ := by
      rw [Stats.count, sums, sums, sums, sums]
      · split <;> rfl
      all_goals omega
    have bound : (if allocation.state != .active then 1 else 0) ≤ 1 := by split <;> omega
    rw [foldl_cons, step, induction]
    · simp only [length_cons, map_cons, sum_cons, filter_cons,
        Stats.mk.injEq]
      split
      · simp only [length_cons]
        omega
      · omega
    all_goals simp only
    all_goals omega

variable {allocation : Allocation}

theorem rawSize_le_mappedSize (recorded : Recorded hardware allocation) :
    allocation.rawSize ≤ allocation.mappedSize := by
  have sized := recorded.sized
  unfold mappedSize at sized
  split at sized
  · cases sized
  split at sized
  · cases sized
  case isFalse.isFalse nonzero _ =>
    simp only [Except.ok.injEq] at sized
    have positive := Nat.pos_of_ne_zero nonzero
    have split := Nat.div_add_mod
      (allocation.rawSize + hardware.granularity allocation.device - 1)
      (hardware.granularity allocation.device)
    have small := Nat.mod_lt
      (allocation.rawSize + hardware.granularity allocation.device - 1) positive
    rw [Nat.mul_comm] at split
    omega

/-- The recorded ranges fit together into the address space. -/
theorem Sound.mapped_lt {world : World} (sound : Sound promise hardware world)
    (selects : Allocation → Bool) :
    ((world.allocations.filter selects).map Allocation.mappedSize).sum < addressSpace := by
  let spans := (world.allocations.filter selects).map fun allocation =>
    (allocation.address, allocation.address + allocation.mappedSize)
  have laid : ∀ allocation ∈ world.allocations, ∃ range,
      world.driver.ranges allocation.address = some range ∧ range.size = allocation.mappedSize := by
    intro allocation listed
    rcases sound.faithful allocation listed with ⟨range, reserved, faithful⟩
    exact ⟨range, reserved, faithful.sized⟩
  have apart : spans.Pairwise Apart := by
    apply pairwise_map.mpr
    have distinct := pairwise_map.mp sound.distinct
    apply (distinct.imp_of_mem _).filter
    intro left right leftListed rightListed different
    rcases laid left leftListed with ⟨leftRange, leftReserved, leftSized⟩
    rcases laid right rightListed with ⟨rightRange, rightReserved, rightSized⟩
    rw [← leftSized, ← rightSized]
    exact sound.laid.apart different leftReserved rightReserved
  have inside : ∀ span ∈ spans, 1 ≤ span.1 ∧ span.2 ≤ addressSpace := by
    rw [forall_mem_map]
    intro allocation listed
    rcases laid allocation (mem_filter.mp listed).1 with ⟨range, reserved, sized⟩
    have bounds := sound.laid.inside reserved
    rw [sized] at bounds
    exact bounds
  have total := sum_lengths_le apart inside
  simp only [spans, map_map, Function.comp_def, Nat.add_sub_cancel_left] at total
  exact Nat.lt_of_le_of_lt total (by decide)

/-- No counter wraps. -/
theorem Sound.regionStats_eq {world : World} (sound : Sound promise hardware world) (tag : String)
    (device : Int) : regionStats world tag device = recordSums world tag device := by
  let selected := world.allocations.filter (·.isSelected tag device)
  have listed : ∀ allocation ∈ selected, Recorded hardware allocation :=
    fun allocation member => sound.recorded allocation (mem_filter.mp member).1
  have mapped : (selected.map Allocation.mappedSize).sum < addressSpace := sound.mapped_lt _
  have raw : (selected.map Allocation.rawSize).sum ≤ (selected.map Allocation.mappedSize).sum :=
    sum_le_sum fun allocation member => rawSize_le_mappedSize (listed allocation member)
  have counted : selected.length ≤ (selected.map Allocation.rawSize).sum := by
    have ones : (selected.map fun _ => 1).sum ≤ (selected.map Allocation.rawSize).sum :=
      sum_le_sum fun allocation member => (listed allocation member).nonempty
    simpa using ones
  have folded := Stats.foldl_count selected ⟨0, 0, 0, 0⟩ (by simp only; omega)
    (by simp only; omega) (by simp only; omega) (by simp only; omega)
  simp only [Nat.zero_add] at folded
  exact folded

/-- What is known of an address range: whether it is reserved, whether its handle is
held, whether it is mapped and whether it is accessible. -/
structure Flags where
  reserved : Bool
  handleHeld : Bool
  mapped : Bool
  accessible : Bool
deriving DecidableEq, Repr

def Allocation.flags (allocation : Allocation) : Flags :=
  ⟨true, allocation.handleValid, allocation.mapped, allocation.accessible⟩

def Driver.flags (driver : Driver) (address : Nat) : Flags :=
  match driver.ranges address with
  | some range => ⟨true, range.held.isSome, range.mapping.isSome, range.accessible⟩
  | none => ⟨false, false, false, false⟩

/-- No unmap of `pause_allocation`, `resume_allocation` or `cudaFree` fails, and the
release of the rollback in `resume_allocation` does not fail. -/
def Dependable (entry : Label → Option Failure) : Prop :=
  (∀ site, site ≠ .allocate → entry (.unmap site) = none) ∧ entry (.release .resumeAccess) = none

/-- In every run without such failures each record tells the true state of its
range, and the counters are the sums over the records. -/
theorem runCalls_agrees (hardware : Hardware) (calls : List (Call × Schedule))
    (dependable : ∀ call ∈ calls, ∀ entry ∈ call.2, Dependable entry) :
    (∀ allocation ∈ (runCalls hardware World.initial calls).allocations,
      allocation.flags = (runCalls hardware World.initial calls).driver.flags allocation.address) ∧
    ∀ tag device, regionStats (runCalls hardware World.initial calls) tag device =
      recordSums (runCalls hardware World.initial calls) tag device := by
  let promise : Promise := ⟨True, True, False⟩
  have respects : promise.Respects calls := fun call member entry listed =>
    ⟨fun _ => (dependable call member entry listed).1,
      fun _ => (dependable call member entry listed).2, False.elim⟩
  have sound : Sound promise hardware (runCalls hardware World.initial calls) :=
    runCalls_sound id respects
  refine ⟨fun allocation listed => ?_, sound.regionStats_eq⟩
  rcases sound.faithful allocation listed with ⟨range, reserved, faithful⟩
  have unmaps := faithful.unmaps trivial
  simp [flags, reserved, Allocation.flags, unmaps.1, unmaps.2.1, faithful.releases trivial]

def Driver.stop (driver : Driver) (address : Nat) : Nat :=
  address + ((driver.ranges address).map Range.size).getD 0

def Driver.top (driver : Driver) : Nat := 4096 + (driver.known.map driver.stop).sum

theorem Driver.stop_lt_top {driver : Driver} {address : Nat} {range : Range}
    (present : driver.ranges address = some range) : address + range.size < driver.top := by
  have known : address ∈ driver.known := by
    by_contra unknown
    rw [driver.ranges_known address unknown] at present
    cases present
  have listed : driver.stop address ∈ driver.known.map driver.stop := mem_map_of_mem known
  have bound := le_sum_of_mem listed
  have stops : driver.stop address = address + range.size := by
    simp [stop, present]
  unfold top
  omega

def Hardware.plain (granularity : Nat) : Hardware where
  granularity _ := granularity
  errorName _ := none
  errorString _ := none
  runtimeName _ := ""
  runtimeString _ := ""
  loaderError := none
  pickHandle handles := handles.sum + 1
  pickAddress driver size := if driver.top + size ≤ addressSpace then some driver.top else none
  arrange allocations allocation := allocation :: allocations
  pickHandle_fresh := by
    intro handles member
    exact Nat.not_succ_le_self _ (le_sum_of_mem member)
  pickAddress_new := by
    intro driver size address picked
    split at picked
    · cases picked
      cases present : driver.ranges driver.top with
      | none => rfl
      | some range =>
        have bound := stop_lt_top present
        omega
    · cases picked
  pickAddress_inside := by
    intro driver size address picked
    split at picked
    case isTrue fits =>
      cases picked
      have positive : 0 < driver.top := by unfold top; omega
      exact ⟨positive, fits⟩
    case isFalse => cases picked
  pickAddress_apart := by
    intro driver size address picked other range present
    split at picked
    · cases picked
      have bound := stop_lt_top present
      rintro point ⟨low, high⟩
      have first : driver.top ≤ point := low.1
      have second : point < other + range.size := high.2
      omega
    · cases picked
  arrange_perm _ _ := .refl _

def failsAt (label : Label) : Label → Option Failure :=
  fun other => if other = label then some (.driver 1) else none

def capture : List (Call × Schedule) :=
  [(.regionPush 0 "graph" (-1) 1, []), (.malloc 0 100, []), (.regionPop 0, [])]

/-- A pause whose unmap fails: the guard asks for the device twice before. -/
def brokenPause : Call × Schedule :=
  (.pause 0 "graph" (-1), replicate 4 (failsAt (.unmap .pause)))

/-- A pause, and a resume which cannot set the access rights and undoes what it has done. -/
def deniedResume : List (Call × Schedule) :=
  capture ++
    [(.pause 0 "graph" (-1), []), (.resume 0 "graph" (-1), replicate 9 (failsAt .setAccess))]

theorem runCalls_agrees_example :
    (graphResume (Hardware.plain 64) 0 "graph" (-1) (runCalls (Hardware.plain 64) World.initial
      (deniedResume.take 4)) (replicate 9 (failsAt .setAccess))).result = .ok (-1) ∧
    (∀ allocation ∈ (runCalls (Hardware.plain 64) World.initial deniedResume).allocations,
      allocation.mapped = false ∧ allocation.flags =
        (runCalls (Hardware.plain 64) World.initial deniedResume).driver.flags
          allocation.address) := by
  have dependable : ∀ call ∈ deniedResume, ∀ entry ∈ call.2, Dependable entry := by
    intro call member entry listed
    simp only [deniedResume, capture, cons_append, nil_append, mem_cons, not_mem_nil,
      or_false] at member
    rcases member with rfl | rfl | rfl | rfl | rfl
    · cases listed
    · cases listed
    · cases listed
    · cases listed
    · cases eq_of_mem_replicate listed
      exact ⟨fun _ _ => rfl, rfl⟩
  have agrees := (runCalls_agrees (Hardware.plain 64) _ dependable).1
  have unmapped : ∀ allocation ∈ (runCalls (Hardware.plain 64) World.initial
      deniedResume).allocations, allocation.mapped = false := by decide +kernel
  exact ⟨by decide +kernel, fun allocation listed =>
    ⟨unmapped allocation listed, agrees allocation listed⟩⟩

/-- After a pause whose unmap failed, the record denies an access which the driver
still grants. -/
theorem brokenPause_disagrees :
    ∃ allocation ∈ (runCalls (Hardware.plain 64) World.initial
        (capture ++ [brokenPause])).allocations,
      allocation.flags ≠ (runCalls (Hardware.plain 64) World.initial
        (capture ++ [brokenPause])).driver.flags allocation.address := by
  decide +kernel

/-- Without failed unmaps every record is active or without any mapping. -/
theorem Faithful.resumable {range : Range} (faithful : Faithful promise range allocation)
    (unmaps : promise.unmaps) : Resumable allocation range := by
  have exactly := faithful.unmaps unmaps
  cases mapped : allocation.mapped with
  | true =>
    have visible := exactly.2.2 mapped
    exact .inl (active_iff.mpr ⟨mapped, (faithful.accessible visible).2.1, visible⟩)
  | false =>
    rw [mapped] at exactly
    exact .inr ⟨mapped, Option.isNone_iff_eq_none.mp (by simpa using exactly.1)⟩

theorem graphResume_capturing {hardware : Hardware} {thread : Nat} {tag : String} {device : Int}
    {world : World} (capturing : world.activeScopeCount ≠ 0) :
    (graphResume hardware thread tag device world []).result = .ok (-1) := by
  have scopes : (world.activeScopeCount != 0) = true := bne_iff_ne.mpr capturing
  simp [graphResume, reporting, recover, Bind.bind, Program.bind, Program.read, onlyIf, scopes,
    refuse, setError, assign, raise, Program.pure]

/-- After any run, with any failures: a resume under which nothing fails returns
zero and brings every matching allocation back exactly when no capture is open and each of them
is active, or unmapped in its record and in the driver. A run in which no unmap of
pause, resume or free failed leaves only such records. -/
theorem graphResume_recovers (hardware : Hardware) (calls : List (Call × Schedule))
    (thread : Nat) (tag : String) (device : Int) :
    (((graphResume hardware thread tag device
          (runCalls hardware World.initial calls) []).result = .ok 0 ∧
        ∀ allocation ∈ (runCalls hardware World.initial calls).allocations,
          allocation.isSelected tag device = true →
          (graphResume hardware thread tag device
            (runCalls hardware World.initial calls) []).state.Backs allocation) ↔
      (runCalls hardware World.initial calls).activeScopeCount = 0 ∧
      ∀ allocation ∈ (runCalls hardware World.initial calls).allocations,
        allocation.isSelected tag device = true →
        (runCalls hardware World.initial calls).Resumes allocation) ∧
    ((∀ call ∈ calls, ∀ entry ∈ call.2, ∀ site, site ≠ .allocate → entry (.unmap site) = none) →
      ∀ allocation ∈ (runCalls hardware World.initial calls).allocations,
        (runCalls hardware World.initial calls).Resumes allocation) := by
  let world := runCalls hardware World.initial calls
  constructor
  · -- The promise is calm exactly if every matching record can be resumed.
    let promise : Promise := ⟨False, False, world.activeScopeCount = 0 ∧
      ∀ allocation ∈ world.allocations,
        allocation.isSelected tag device = true → world.Resumes allocation⟩
    have reached : Sound ⟨False, False, False⟩ hardware world :=
      runCalls_sound id fun call _ entry _ =>
        ⟨False.elim, False.elim, False.elim⟩
    have starts : Sound promise hardware world := by
      refine { reached with faithful := fun allocation listed => ?_ }
      rcases reached.faithful allocation listed with ⟨range, reserved, faithful⟩
      exact ⟨range, reserved, { faithful with unmaps := False.elim, releases := False.elim }⟩
    have keeps : promise.Keeps (fun now => now = world) (graphResume hardware thread tag device)
        _ _ := graphResume_keeps starts id
    have ran := (keeps world [] rfl (forall_mem_nil _)).2.2
    constructor
    · rintro ⟨returned, _⟩
      have idle : world.activeScopeCount = 0 := by
        by_contra capturing
        exact absurd (returned.symm.trans (graphResume_capturing capturing)) (by decide)
      rw [returned] at ran
      rcases ran with ⟨_, progress⟩ | ⟨impossible, _⟩
      · exact ⟨idle, fun allocation listed selected =>
          (progress.done allocation listed selected).1⟩
      · cases impossible
    · intro resumes
      cases returned : (graphResume hardware thread tag device world []).result with
      | error failure =>
        rw [returned] at ran
        exact ran.elim
      | ok code =>
        rw [returned] at ran
        rcases ran with ⟨rfl, progress⟩ | ⟨_, halted⟩
        · exact ⟨rfl, fun allocation listed selected =>
            (progress.done allocation listed selected).2⟩
        · exact absurd resumes halted.calmless
  · intro unmaps allocation listed
    have sound : Sound ⟨True, False, False⟩ hardware world :=
      runCalls_sound id fun call member entry entryListed =>
        ⟨fun _ => unmaps call member entry entryListed, False.elim, False.elim⟩
    rcases sound.faithful allocation listed with ⟨range, reserved, faithful⟩
    exact ⟨range, reserved, faithful.resumable trivial⟩

/-- A pause which failed before any unmap is undone by the next resume. -/
theorem graphResume_recovers_example :
    (graphResume (Hardware.plain 64) 0 "graph" (-1)
      (runCalls (Hardware.plain 64) World.initial (capture ++
        [(.pause 0 "graph" (-1), replicate 5 (failsAt (.release .pause)))])) []).result =
      .ok 0 := by
  have recovers := graphResume_recovers (Hardware.plain 64) (capture ++
    [(.pause 0 "graph" (-1), replicate 5 (failsAt (.release .pause)))]) 0 "graph" (-1)
  have resumes := recovers.2 (by
    intro call member entry listed site _
    simp only [capture, cons_append, nil_append, mem_cons, not_mem_nil, or_false] at member
    rcases member with rfl | rfl | rfl | rfl
    · cases listed
    · cases listed
    · cases listed
    · cases eq_of_mem_replicate listed
      rfl)
  exact (recovers.1.mpr ⟨by decide +kernel, fun allocation listed _ =>
    resumes allocation listed⟩).1

/-- After a pause whose unmap failed, a resume under which nothing fails returns
`-1`. -/
theorem brokenPause_stays_broken :
    (graphResume (Hardware.plain 64) 0 "graph" (-1)
      (runCalls (Hardware.plain 64) World.initial (capture ++ [brokenPause])) []).result =
      .ok (-1) := by
  decide +kernel

end Coldsnap.GraphMemory
