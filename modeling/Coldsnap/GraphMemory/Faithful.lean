import Coldsnap.Foundation.Contract
import Coldsnap.GraphMemory.Allocator

/-! # Records and the driver

What the allocator's records say about their ranges, and that every call keeps
it. How much they say depends on which driver calls may fail: a promise names
the failures which are excluded.
-/

namespace Coldsnap.GraphMemory

open Intervals Program List Function Driver

/-- Which failures are excluded: unmaps outside `allocate_scoped`, the release
after failed access rights, or all of them. -/
structure Promise where
  unmaps : Prop
  releases : Prop
  calm : Prop

structure Promise.Plan (promise : Promise) (entry : Label → Option Failure) : Prop where
  unmaps : promise.unmaps → ∀ site, site ≠ .allocate → entry (.unmap site) = none
  releases : promise.releases → entry (.release .resumeAccess) = none
  calm : promise.calm → ∀ label, entry label = none

def Promise.Faults (promise : Promise) (label : Label) : Prop :=
  ∃ entry failure, promise.Plan entry ∧ entry label = some failure

section Faults

variable {promise : Promise}

theorem Promise.Faults.not_calm {label : Label} (faults : promise.Faults label) :
    ¬promise.calm := by
  rintro calm
  rcases faults with ⟨entry, failure, plan, fails⟩
  rw [plan.calm calm label] at fails
  cases fails

theorem Promise.Faults.not_unmaps {site : UnmapSite} (faults : promise.Faults (.unmap site))
    (elsewhere : site ≠ .allocate) : ¬promise.unmaps := by
  rintro unmaps
  rcases faults with ⟨entry, failure, plan, fails⟩
  rw [plan.unmaps unmaps site elsewhere] at fails
  cases fails

theorem Promise.Faults.not_releases (faults : promise.Faults (.release .resumeAccess)) :
    ¬promise.releases := by
  rintro releases
  rcases faults with ⟨entry, failure, plan, fails⟩
  rw [plan.releases releases] at fails
  cases fails

end Faults

/-! ## Rules for the calls -/

/-- From `before` the program returns in `after` or fails in `failed`, under every
schedule which respects the promise. -/
abbrev Promise.Keeps (promise : Promise) {α : Type} (before : World → Prop) (program : Action α)
    (after : α → World → Prop) (failed : World → Prop) : Prop :=
  Triple promise.Plan (fun _ => True) before program after fun _ => failed

def Blind (property : World → Prop) : Prop :=
  ∀ world thread update, property world → property (world.onThread thread update)

section Rules

variable {promise : Promise} {α : Type} {before failed : World → Prop}
variable {after : α → World → Prop} {hardware : Hardware} {thread : Nat} {label : Label}

section

variable (faults : promise.Faults label → ∀ world, before world → failed world)

include faults

theorem operation_keeps {effect : World → Except Failure α × World}
    (acts : ∀ world, before world → Settles (effect world).1
      (fun value => after value (effect world).2) (failed (effect world).2)) :
    promise.Keeps before (Program.operation label effect) after failed := by
  apply Triple.operation
  · intro world entry failure starts plan fails
    exact ⟨trivial, faults ⟨entry, failure, plan, fails⟩ world starts⟩
  · intro world starts
    have outcome := acts world starts
    refine ⟨trivial, ?_⟩
    revert outcome
    cases (effect world).1 <;> exact id

variable {effect : Driver → Except Nat (α × Driver)}

theorem drive_keeps
    (succeeds : ∀ world value driver, before world → effect world.driver = .ok (value, driver) →
      after value { world with driver := driver })
    (refuses : ∀ world result, before world → effect world.driver = .error result → failed world) :
    promise.Keeps before (drive label effect) after failed := by
  apply operation_keeps faults
  intro world starts
  cases outcome : effect world.driver with
  | ok result => exact succeeds world result.1 result.2 starts outcome
  | error result => exact refuses world result starts outcome

theorem drive_effect {value : α} {next : World → Driver}
    (acts : ∀ world, before world → effect world.driver = .ok (value, next world))
    (succeeds : ∀ world, before world → after value { world with driver := next world }) :
    promise.Keeps before (drive label effect) after failed := by
  apply operation_keeps faults
  intro world starts
  simp only [acts world starts]
  exact succeeds world starts

theorem quiet_keeps : promise.Keeps before (quiet label) (fun _ => before) failed :=
  operation_keeps faults fun _ => id

end

theorem setError_keeps {message : String} (blind : Blind before) :
    promise.Keeps before (setError thread message) (fun _ => before) failed :=
  .assign (fun _ _ => trivial) fun world => blind world thread _

theorem refuse_keeps {message : String} {code : Nat} (blind : Blind failed)
    (gives : ∀ world, before world → failed world) :
    promise.Keeps before (refuse (α := α) thread message code) after failed := by
  have notes : promise.Keeps before (setError thread message) (fun _ => failed) failed :=
    .assign (fun _ _ => trivial) fun world starts =>
      blind world thread _ (gives world starts)
  exact .bind notes fun _ => .raise fun _ => id

theorem checked_keeps {text : String} {call : Action α} (blind : Blind failed)
    (keeps : promise.Keeps before call after failed) :
    promise.Keeps before (checked hardware thread text call) after failed :=
  .recover keeps fun _ =>
    .bind (setError_keeps blind) fun _ => .raise fun _ => id

theorem ignoring_keeps {call : Action Unit} {after : World → Prop}
    (keeps : promise.Keeps before call (fun _ => after) after) :
    promise.Keeps before (ignoring call) (fun _ => after) failed :=
  .recover keeps fun _ => .pure fun _ => id

theorem orElse_keeps {call : Action α} {undo : Action Unit} {caught : World → Prop}
    (keeps : promise.Keeps before call after caught)
    (undoes : promise.Keeps caught undo (fun _ => failed) failed) :
    promise.Keeps before (orElse call undo) after failed :=
  .recover keeps fun _ => .bind undoes fun _ => .raise fun _ => id

section

variable {device : Int} (faults : ¬promise.calm → ∀ world, before world → failed world)

include faults

theorem cudaGetDevice_keeps :
    promise.Keeps before (cudaGetDevice thread) (fun _ => before) failed :=
  operation_keeps (fun fault => faults fault.not_calm) fun _ => id

theorem cudaSetDevice_keeps (blind : Blind before) :
    promise.Keeps before (cudaSetDevice label thread device) (fun _ => before) failed := by
  apply operation_keeps fun fault => faults fault.not_calm
  intro world starts
  exact blind world thread (fun fields => { fields with device := device }) starts

omit faults in
/-- The destructor of a guard changes nothing but the device of the thread. -/
theorem restoreDevice_keeps {condition : Bool} (blind : Blind before) :
    promise.Keeps before
      (Program.onlyIf condition (ignoring (cudaSetDevice .restoreDevice thread device)))
      (fun _ => before) failed :=
  .onlyIf
    (fun _ => ignoring_keeps (cudaSetDevice_keeps (fun _ _ => id) blind))
    fun _ _ => id

theorem deviceGuard_keeps {requested : Int} {body : Action α} (blindBefore : Blind before)
    (blindAfter : ∀ value, Blind (after value)) (blindFailed : Blind failed)
    (keeps : promise.Keeps before body after failed) :
    promise.Keeps before (deviceGuard hardware thread requested body) after failed := by
  apply Triple.bind (checked_keeps blindFailed (cudaGetDevice_keeps faults))
  intro original
  apply Triple.through fun _ => before
  · exact .onlyIf
      (fun _ => checked_keeps blindFailed (cudaSetDevice_keeps faults blindBefore))
      fun _ _ => id
  intro _
  exact .finallyDo keeps (fun value => restoreDevice_keeps (blindAfter value))
    fun _ => restoreDevice_keeps blindFailed

theorem synchronizeDevice_keeps (blindBefore : Blind before) (blindFailed : Blind failed) :
    promise.Keeps before (synchronizeDevice hardware thread device) (fun _ => before) failed :=
  deviceGuard_keeps faults blindBefore (fun _ => blindBefore) blindFailed
    (checked_keeps blindFailed (quiet_keeps fun fault => faults fault.not_calm))

theorem synchronizeMatchingDevices_keeps {tag : String} (blindBefore : Blind before)
    (blindFailed : Blind failed) :
    promise.Keeps before (synchronizeMatchingDevices hardware thread tag device)
      (fun _ => before) failed := by
  apply Triple.through fun _ => before
  · exact .read fun _ => id
  intro allocations
  exact .forEach (fun _ => before)
    (fun _ _ => synchronizeDevice_keeps faults blindBefore blindFailed) _

end

end Rules

/-! ## What the records say -/

/-- A held handle is live and backs one range. -/
structure Driver.Owned (driver : Driver) : Prop where
  live : ∀ {address range handle}, driver.ranges address = some range →
    range.held = some handle → handle ∈ driver.handles
  once : ∀ {address other range otherRange handle}, driver.ranges address = some range →
    driver.ranges other = some otherRange → range.held = some handle →
    otherRange.held = some handle → address = other

/-- Reservations lie apart inside the address space. -/
structure Driver.Laid (driver : Driver) : Prop where
  inside : ∀ {address range}, driver.ranges address = some range →
    0 < address ∧ address + range.size ≤ addressSpace
  apart : ∀ {address other range otherRange}, address ≠ other →
    driver.ranges address = some range → driver.ranges other = some otherRange →
    Apart (address, address + range.size) (other, other + otherRange.size)

/-- A handle which no range beside the one at `address` holds. -/
def Driver.Free (driver : Driver) (address : Nat) (handle : Nat) : Prop :=
  ∀ {other found}, other ≠ address → driver.ranges other = some found → found.held ≠ some handle

section Driver

variable {driver : Driver} {address : Nat} {next : Option Range} {handle : Nat}

theorem Driver.setRange_view {other : Nat} {found : Range}
    (present : (driver.setRange address next).ranges other = some found) :
    (other = address ∧ next = some found) ∨
      (other ≠ address ∧ driver.ranges other = some found) := by
  by_cases equal : other = address
  · subst equal
    simp only [setRange, update_self] at present
    exact .inl ⟨rfl, present⟩
  · simp only [setRange, update_of_ne equal] at present
    exact .inr ⟨equal, present⟩

section

variable (owned : driver.Owned)

include owned

theorem Driver.Owned.setRange
    (backed : ∀ range handle, next = some range → range.held = some handle →
      handle ∈ driver.handles ∧ driver.Free address handle) :
    (driver.setRange address next).Owned := by
  constructor
  · intro other found handle present holds
    rcases setRange_view present with ⟨_, new⟩ | ⟨_, kept⟩
    · exact (backed found handle new holds).1
    · exact owned.live kept holds
  · intro left right leftRange rightRange handle leftPresent rightPresent leftHolds rightHolds
    rcases setRange_view leftPresent with ⟨leftEqual, new⟩ | ⟨leftOther, leftKept⟩
    · rcases setRange_view rightPresent with ⟨rightEqual, _⟩ | ⟨rightOther, rightKept⟩
      · rw [leftEqual, rightEqual]
      · exact absurd rightHolds ((backed leftRange handle new leftHolds).2 rightOther rightKept)
    · rcases setRange_view rightPresent with ⟨_, new⟩ | ⟨_, rightKept⟩
      · exact absurd leftHolds ((backed rightRange handle new rightHolds).2 leftOther leftKept)
      · exact owned.once leftKept rightKept leftHolds rightHolds

theorem Driver.Owned.clear : (driver.setRange address none).Owned := by
  apply owned.setRange
  intro range handle impossible
  cases impossible

theorem Driver.Owned.free {range : Range} (present : driver.ranges address = some range)
    (held : range.held = some handle) : driver.Free address handle :=
  fun different otherPresent holds => different (owned.once otherPresent present holds held)

theorem Driver.Owned.adjust {range changed : Range} (present : driver.ranges address = some range)
    (held : changed.held = range.held) : (driver.setRange address (some changed)).Owned := by
  apply owned.setRange
  intro new handle equal holds
  cases equal
  rw [held] at holds
  exact ⟨owned.live present holds, owned.free present holds⟩

theorem Driver.Owned.without (handle : Nat) : (driver.without handle).Owned := by
  have view : ∀ {address found kept}, (driver.without handle).ranges address = some found →
      found.held = some kept → kept ≠ handle ∧ ∃ earlier,
        driver.ranges address = some earlier ∧ earlier.held = some kept := by
    intro address found kept present holds
    rcases Option.map_eq_some_iff.mp present with ⟨earlier, presentBefore, rfl⟩
    by_cases dropped : earlier.held = some handle
    · rw [Range.without, if_pos dropped] at holds
      cases holds
    · rw [Range.without, if_neg dropped] at holds
      refine ⟨?_, earlier, presentBefore, holds⟩
      rintro rfl
      exact dropped holds
  constructor
  · intro address found kept present holds
    rcases view present holds with ⟨different, earlier, presentBefore, holdsBefore⟩
    apply mem_filter.mpr
    exact ⟨owned.live presentBefore holdsBefore, by simpa using different⟩
  · intro address other found otherFound kept present otherPresent holds otherHolds
    rcases view present holds with ⟨_, earlier, presentBefore, holdsBefore⟩
    rcases view otherPresent otherHolds with ⟨_, otherEarlier, otherBefore, otherHoldsBefore⟩
    exact owned.once presentBefore otherBefore holdsBefore otherHoldsBefore

theorem Driver.Owned.create (handle : Nat) :
    Owned { driver with handles := handle :: driver.handles } :=
  ⟨fun present holds => mem_cons_of_mem _ (owned.live present holds), owned.once⟩

end

/-- A range which no longer holds a handle is as it was if it never held it. -/
theorem Driver.without_ranges {range : Range} (present : driver.ranges address = some range)
    (free : range.held ≠ some handle) : (driver.without handle).ranges address = some range := by
  simp only [without, present, Option.map_some]
  rw [Range.without, if_neg free]

variable (laid : driver.Laid)

include laid

theorem Driver.Laid.setRange
    (inside : ∀ range, next = some range → 0 < address ∧ address + range.size ≤ addressSpace)
    (apart : ∀ range other found, next = some range → other ≠ address →
      driver.ranges other = some found →
      Apart (address, address + range.size) (other, other + found.size)) :
    (driver.setRange address next).Laid := by
  constructor
  · intro other found present
    rcases setRange_view present with ⟨rfl, new⟩ | ⟨_, kept⟩
    · exact inside found new
    · exact laid.inside kept
  · intro left right leftRange rightRange different leftPresent rightPresent
    rcases setRange_view leftPresent with ⟨rfl, new⟩ | ⟨leftOther, leftKept⟩
    · rcases setRange_view rightPresent with ⟨rightEqual, _⟩ | ⟨rightOther, rightKept⟩
      · exact absurd rightEqual.symm different
      · exact apart leftRange right rightRange new rightOther rightKept
    · rcases setRange_view rightPresent with ⟨rfl, new⟩ | ⟨_, rightKept⟩
      · exact (apart rightRange left leftRange new leftOther leftKept).symm
      · exact laid.apart different leftKept rightKept

theorem Driver.Laid.clear : (driver.setRange address none).Laid := by
  apply laid.setRange
  · intro range impossible
    cases impossible
  · intro range other found impossible
    cases impossible

theorem Driver.Laid.adjust {range changed : Range}
    (present : driver.ranges address = some range) (sized : changed.size = range.size) :
    (driver.setRange address (some changed)).Laid := by
  apply laid.setRange
  · intro new equal
    cases equal
    rw [sized]
    exact laid.inside present
  · intro new other found equal different otherPresent
    cases equal
    rw [sized]
    exact laid.apart different.symm present otherPresent

theorem Driver.Laid.without (handle : Nat) : (driver.without handle).Laid := by
  have view : ∀ {address found}, (driver.without handle).ranges address = some found →
      ∃ earlier, driver.ranges address = some earlier ∧ found.size = earlier.size := by
    intro address found present
    rcases Option.map_eq_some_iff.mp present with ⟨earlier, presentBefore, rfl⟩
    refine ⟨earlier, presentBefore, ?_⟩
    unfold Range.without
    split <;> rfl
  constructor
  · intro address found present
    rcases view present with ⟨earlier, presentBefore, same⟩
    rw [same]
    exact laid.inside presentBefore
  · intro address other found otherFound different present otherPresent
    rcases view present with ⟨earlier, presentBefore, same⟩
    rcases view otherPresent with ⟨otherEarlier, otherBefore, otherSame⟩
    rw [same, otherSame]
    exact laid.apart different presentBefore otherBefore

end Driver

/-- How a record relates to its range. Without a promise it may understate what the
driver holds; it never overstates it. -/
structure Faithful (promise : Promise) (range : Range) (allocation : Allocation) : Prop where
  sized : range.size = allocation.mappedSize
  mapped : allocation.mapped = true → range.mapping.isSome = true
  held : allocation.handleValid = true → range.held = some allocation.handle
  accessible : allocation.accessible = true →
    allocation.mapped = true ∧ allocation.handleValid = true ∧ range.accessible = true
  unmaps : promise.unmaps → range.mapping.isSome = allocation.mapped ∧
    range.accessible = allocation.accessible ∧
    (allocation.mapped = true → allocation.accessible = true)
  releases : promise.releases → range.held.isSome = allocation.handleValid

structure Recorded (hardware : Hardware) (allocation : Allocation) : Prop where
  sized : mappedSize (hardware.granularity allocation.device) allocation.rawSize =
    .ok allocation.mappedSize
  nonempty : 0 < allocation.rawSize

structure Sound (promise : Promise) (hardware : Hardware) (world : World) : Prop where
  distinct : (world.allocations.map Allocation.address).Nodup
  recorded : ∀ allocation ∈ world.allocations, Recorded hardware allocation
  faithful : ∀ allocation ∈ world.allocations, ∃ range,
    world.driver.ranges allocation.address = some range ∧ Faithful promise range allocation
  owned : world.driver.Owned
  laid : world.driver.Laid

theorem Sound.blind (promise : Promise) (hardware : Hardware) : Blind (Sound promise hardware) :=
  fun _ _ _ sound => { sound with }

theorem Sound.initial (promise : Promise) (hardware : Hardware) :
    Sound promise hardware World.initial where
  distinct := nodup_nil
  recorded := forall_mem_nil _
  faithful := forall_mem_nil _
  owned := ⟨nofun, nofun⟩
  laid := ⟨nofun, nofun⟩

/-! ## Work on one record -/

def Allocation.identity (allocation : Allocation) : Allocation :=
  { allocation with handle := 0, handleValid := false, mapped := false, accessible := false }

variable {left right : Allocation}

section

variable (same : left.identity = right.identity)

include same

theorem Allocation.address_of_identity : left.address = right.address := by
  have equal : left.identity.address = right.identity.address := by rw [same]
  exact equal

theorem Allocation.mappedSize_of_identity : left.mappedSize = right.mappedSize := by
  have equal : left.identity.mappedSize = right.identity.mappedSize := by rw [same]
  exact equal

theorem Recorded.of_identity {hardware : Hardware} (recorded : Recorded hardware right)
    : Recorded hardware left := by
  have device : left.identity.device = right.identity.device := by rw [same]
  have rawSize : left.identity.rawSize = right.identity.rawSize := by rw [same]
  simp only [Allocation.identity] at device rawSize
  rcases recorded with ⟨sized, nonempty⟩
  constructor
  · rw [device, rawSize, Allocation.mappedSize_of_identity same]
    exact sized
  · rw [rawSize]
    exact nonempty

end

theorem map_address_store (allocation : Allocation) (allocations : List Allocation) :
    (store allocation allocations).map Allocation.address = allocations.map Allocation.address := by
  unfold store
  rw [map_map]
  apply map_congr_left
  intro other _
  by_cases equal : other.address = allocation.address
  · simp [equal]
  · simp [equal]

theorem store_store {first second : Allocation} (equal : first.address = second.address)
    (allocations : List Allocation) :
    store first (store second allocations) = store first allocations := by
  unfold store
  rw [map_map]
  apply map_congr_left
  intro other _
  by_cases here : other.address = second.address
  · simp [here, equal]
  · simp [here]

variable {allocations : List Allocation}

theorem store_self {allocation : Allocation}
    (distinct : (allocations.map Allocation.address).Nodup) (listed : allocation ∈ allocations) :
    store allocation allocations = allocations := by
  have same : store allocation allocations = allocations.map id := by
    apply map_congr_left
    intro other member
    by_cases here : other.address = allocation.address
    · rw [if_pos here]
      exact (inj_on_of_nodup_map distinct member listed here).symm
    · rw [if_neg here, id]
  rw [same, map_id]

variable {allocation other : Allocation}

theorem mem_store (member : other ∈ store allocation allocations) :
    other = allocation ∨ (other ∈ allocations ∧ other.address ≠ allocation.address) := by
  rcases mem_map.mp member with ⟨original, listed, equal⟩
  by_cases here : original.address = allocation.address
  · rw [if_pos here] at equal
    exact .inl equal.symm
  · rw [if_neg here] at equal
    subst equal
    exact .inr ⟨listed, here⟩

theorem mem_store_other (listed : other ∈ allocations)
    (different : other.address ≠ allocation.address) : other ∈ store allocation allocations :=
  mem_map.mpr ⟨other, listed, if_neg different⟩

/-- The state differs from `start` in one record and in its range. -/
structure Focus (start : World) (allocation : Allocation) (range : Range) (now : World) : Prop where
  allocations : now.allocations = store allocation start.allocations
  ranges : now.driver.ranges = update start.driver.ranges allocation.address (some range)
  owned : now.driver.Owned
  laid : now.driver.Laid

namespace Focus

variable {hardware : Hardware} {start now : World} {promise : Promise}
variable {original : Allocation} {range next : Range}

theorem blind : Blind (Focus start allocation range) :=
  fun _ _ _ focus => { focus with }

section

variable (focus : Focus start allocation range now)

include focus

theorem here : now.driver.ranges allocation.address = some range := by
  rw [focus.ranges, update_self]

theorem elsewhere {other : Nat} (different : other ≠ allocation.address) :
    now.driver.ranges other = start.driver.ranges other := by
  rw [focus.ranges, update_of_ne different]

omit focus in
theorem opened (sound : Sound promise hardware start) (listed : allocation ∈ start.allocations)
    (reserved : start.driver.ranges allocation.address = some range) :
    Focus start allocation range start where
  allocations := (store_self sound.distinct listed).symm
  ranges := by rw [← reserved, update_eq_self]
  owned := sound.owned
  laid := sound.laid

/-- A record which describes its range again makes the whole state sound. -/
theorem sound (starts : Sound promise hardware start) (listed : original ∈ start.allocations)
    (same : allocation.identity = original.identity) (faithful : Faithful promise range allocation)
    : Sound promise hardware now := by
  constructor
  · rw [focus.allocations, map_address_store]
    exact starts.distinct
  · intro other member
    rw [focus.allocations] at member
    rcases mem_store member with changed | ⟨kept, _⟩
    · rw [changed]
      exact (starts.recorded original listed).of_identity same
    · exact starts.recorded other kept
  · intro other member
    rw [focus.allocations] at member
    rcases mem_store member with changed | ⟨kept, different⟩
    · rw [changed]
      exact ⟨range, focus.here, faithful⟩
    · rw [focus.elsewhere different]
      exact starts.faithful other kept
  · exact focus.owned
  · exact focus.laid

/-! ### Steps -/

omit focus in
theorem keep (focus : Focus start original range now)
    (equal : allocation.address = original.address) :
    Focus start allocation range { now with allocations := store allocation now.allocations } where
  __ := focus
  allocations := by
    rw [← store_store equal start.allocations, ← focus.allocations]
  ranges := by rw [equal]; exact focus.ranges

theorem setRange (sized : next.size = range.size)
    (owned : (now.driver.setRange allocation.address (some next)).Owned) :
    Focus start allocation next
      { now with driver := now.driver.setRange allocation.address (some next) } where
  allocations := focus.allocations
  ranges := by
    simp only [Driver.setRange]
    rw [focus.ranges, update_idem]
  owned := owned
  laid := focus.laid.adjust focus.here sized

theorem without {handle : Nat} (free : now.driver.Free allocation.address handle) :
    Focus start allocation (range.without handle)
      { now with driver := now.driver.without handle } where
  allocations := focus.allocations
  ranges := by
    funext address
    by_cases equal : address = allocation.address
    · subst equal
      simp [Driver.without, focus.here]
    · rw [update_of_ne equal, ← focus.elsewhere equal]
      cases present : now.driver.ranges address with
      | none => simp only [Driver.without, present, Option.map_none]
      | some found => exact Driver.without_ranges present (free equal present)
  owned := focus.owned.without handle
  laid := focus.laid.without handle

theorem create (handle : Nat) :
    Focus start allocation range { now with driver := { now.driver with
      handles := handle :: now.driver.handles } } :=
  ⟨focus.allocations, focus.ranges, focus.owned.create handle, focus.laid.inside, focus.laid.apart⟩

end

end Focus

end Coldsnap.GraphMemory
