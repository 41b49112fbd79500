import Coldsnap.GraphMemory.Backing

/-! # Every call keeps the records sound

Allocation builds a range beside the recorded ones; whatever its rollback leaves
behind belongs to no record. Freeing and the loops of pause and resume work on
one record at a time.
-/

namespace Coldsnap.GraphMemory

open Intervals Program List Function Driver

/-! ## Allocation -/

/-- The state differs from `start` beside the recorded ranges only. -/
structure Aside (start now : World) : Prop where
  allocations : now.allocations = start.allocations
  ranges : ∀ {address range}, start.driver.ranges address = some range →
    now.driver.ranges address = some range
  owned : now.driver.Owned
  laid : now.driver.Laid

namespace Aside

variable {promise : Promise} {hardware : Hardware} {start now : World}

theorem blind : Blind fun world => Aside start world :=
  fun _ _ _ aside => { aside with }

theorem refl (sound : Sound promise hardware start) : Aside start start :=
  ⟨rfl, id, sound.owned, sound.laid⟩

theorem sound (aside : Aside start now) (starts : Sound promise hardware start) :
    Sound promise hardware now where
  distinct := by rw [aside.allocations]; exact starts.distinct
  recorded := by rw [aside.allocations]; exact starts.recorded
  faithful := by
    rw [aside.allocations]
    intro allocation listed
    rcases starts.faithful allocation listed with ⟨range, reserved, faithful⟩
    exact ⟨range, aside.ranges reserved, faithful⟩
  owned := aside.owned
  laid := aside.laid

theorem setRange (aside : Aside start now) {address : Nat} {next : Option Range}
    (new : start.driver.ranges address = none) (owned : (now.driver.setRange address next).Owned)
    (laid : (now.driver.setRange address next).Laid) :
    Aside start { now with driver := now.driver.setRange address next } where
  allocations := aside.allocations
  ranges := by
    intro other range reserved
    have different : other ≠ address := by
      rintro rfl
      rw [new] at reserved
      cases reserved
    simp only [Driver.setRange, update_of_ne different]
    exact aside.ranges reserved
  owned := owned
  laid := laid

theorem without (aside : Aside start now) {handle : Nat}
    (free : ∀ {address range}, start.driver.ranges address = some range →
      range.held ≠ some handle) :
    Aside start { now with driver := now.driver.without handle } where
  allocations := aside.allocations
  ranges := fun reserved => without_ranges (aside.ranges reserved) (free reserved)
  owned := aside.owned.without handle
  laid := aside.laid.without handle

end Aside

/-- A range under construction at `address`, which no record of the start uses, and
its handle, which no recorded range holds. -/
structure Draft (start : World) (address handle : Nat) (now : World) : Prop where
  aside : Aside start now
  new : start.driver.ranges address = none
  free : ∀ {other range}, start.driver.ranges other = some range → range.held ≠ some handle

theorem Draft.blind {start : World} {address : Nat} {handle : Nat} :
    Blind (Draft start address handle) :=
  fun world thread update draft =>
    ⟨draft.aside.blind world thread update, draft.new, draft.free⟩

section Allocate

variable {promise : Promise} {hardware : Hardware} {thread : Nat} {start : World}
variable {address size : Nat} {handle : Nat} {failed : World → Prop}

/-- A rollback call leaves a draft, whether it succeeds or not. -/
theorem ignoring_draft {label : Label} {effect : Driver → Except Nat (Unit × Driver)}
    (acts : ∀ now driver, Draft start address handle now → effect now.driver = .ok ((), driver) →
      Draft start address handle { now with driver := driver }) :
    promise.Keeps (Draft start address handle) (ignoring (drive label effect))
      (fun _ => Draft start address handle) failed := by
  apply ignoring_keeps
  apply drive_keeps
  · exact fun _ _ => id
  · exact fun now _ => acts now
  · exact fun _ _ draft _ => draft

theorem releaseDraft_keeps {site : ReleaseSite} :
    promise.Keeps (Draft start address handle)
      (ignoring (drive (.release site) (·.release handle)))
      (fun _ => Draft start address handle) failed := by
  apply ignoring_draft
  intro now driver draft outcome
  unfold release at outcome
  split at outcome
  · cases outcome
    exact ⟨draft.aside.without draft.free, draft.new, draft.free⟩
  · cases outcome

theorem abandon_keeps :
    promise.Keeps (Draft start address handle) (abandon address size handle)
      (fun _ => Draft start address handle) failed := by
  apply Triple.bind (ignoring_draft _) fun _ => releaseDraft_keeps
  intro now driver draft outcome
  unfold addressFree onRange at outcome
  split at outcome
  · split at outcome
    · cases outcome
      refine ⟨draft.aside.setRange draft.new ?_ ?_, draft.new, draft.free⟩
      · exact draft.aside.owned.clear
      · exact draft.aside.laid.clear
    · cases outcome
  · cases outcome

theorem unwind_keeps :
    promise.Keeps (Draft start address handle) (unwind address size handle)
      (fun _ => Draft start address handle) failed := by
  apply Triple.bind (ignoring_draft _) fun _ => abandon_keeps
  intro now driver draft outcome
  unfold unmap onRange at outcome
  split at outcome
  case h_1 range present =>
    split at outcome
    · cases outcome
      refine ⟨draft.aside.setRange draft.new ?_ ?_, draft.new, draft.free⟩
      · exact draft.aside.owned.adjust present rfl
      · exact draft.aside.laid.adjust present rfl
    · cases outcome
  case h_2 => cases outcome

theorem createDraft_keeps :
    promise.Keeps (Aside start) (drive .create (create hardware))
      (fun handle now => Aside start now ∧ now.driver.Loose handle) (Aside start) := by
  apply drive_keeps
  · exact fun _ _ => id
  · intro now handle driver aside outcome
    cases outcome
    refine ⟨⟨aside.allocations, aside.ranges, aside.owned.create _, ?_⟩, mem_cons_self, ?_⟩
    · exact ⟨aside.laid.inside, aside.laid.apart⟩
    · intro address range present holds
      exact hardware.pickHandle_fresh _ (aside.owned.live present holds)
  · exact fun _ _ aside _ => aside

theorem releaseLooseAside_keeps {site : ReleaseSite} :
    promise.Keeps (fun now => Aside start now ∧ now.driver.Loose handle)
      (ignoring (drive (.release site) (·.release handle))) (fun _ => Aside start) failed := by
  apply ignoring_keeps
  apply drive_effect (fun _ _ holds => holds.1) fun _ holds => if_pos holds.2.1
  exact fun now holds => holds.1.without fun reserved => holds.2.2 (holds.1.ranges reserved)

theorem reserve_keeps :
    promise.Keeps (fun now => Aside start now ∧ now.driver.Loose handle)
      (drive .reserve fun driver => driver.reserve hardware size)
      (fun address now => Draft start address handle now ∧ now.driver.Loose handle ∧
        now.driver.ranges address = some ⟨size, none, none, false⟩)
      (fun now => Aside start now ∧ now.driver.Loose handle) := by
  apply drive_keeps
  · exact fun _ _ => id
  · rintro now address driver ⟨aside, loose⟩ outcome
    unfold reserve at outcome
    split at outcome
    case h_1 picked chosen =>
      cases outcome
      have fresh := hardware.pickAddress_new chosen
      have new : start.driver.ranges address = none := by
        cases reserved : start.driver.ranges address with
        | none => rfl
        | some range => rw [aside.ranges reserved] at fresh; cases fresh
      have free : ∀ {other range}, start.driver.ranges other = some range →
          range.held ≠ some handle := fun reserved => loose.2 (aside.ranges reserved)
      refine ⟨⟨aside.setRange new ?_ ?_, new, free⟩, ⟨loose.1, ?_⟩, ?_⟩
      · apply aside.owned.setRange
        intro range held equal
        cases equal
        exact nofun
      · apply aside.laid.setRange
        · intro range equal
          cases equal
          exact hardware.pickAddress_inside chosen
        · intro range other found equal _ present
          cases equal
          exact hardware.pickAddress_apart chosen present
      · intro other range present
        rcases setRange_view present with ⟨_, equal⟩ | ⟨_, kept⟩
        · cases equal
          exact nofun
        · exact loose.2 kept
      · simp [setRange]
    case h_2 => cases outcome
  · exact fun _ _ holds _ => holds

theorem mapDraft_keeps :
    promise.Keeps (fun now => Draft start address handle now ∧ now.driver.Loose handle ∧
        now.driver.ranges address = some ⟨size, none, none, false⟩)
      (drive .map (·.map address size handle)) (fun _ now => Draft start address handle now ∧
        now.driver.ranges address = some ⟨size, some handle, some handle, false⟩)
      (Draft start address handle) := by
  apply drive_keeps
  · exact fun _ _ holds => holds.1
  · rintro now _ driver ⟨draft, loose, present⟩ outcome
    simp only [Driver.map, Driver.onRange, present, loose.1, and_self, if_true] at outcome
    cases outcome
    refine ⟨⟨draft.aside.setRange draft.new ?_ ?_, draft.new, draft.free⟩, ?_⟩
    · apply draft.aside.owned.setRange
      intro range held equal holds
      cases equal
      cases holds
      exact ⟨loose.1, fun _ => loose.2⟩
    · exact draft.aside.laid.adjust present rfl
    · simp [setRange]
  · exact fun _ _ holds _ => holds.1

theorem accessDraft_keeps :
    promise.Keeps (fun now => Draft start address handle now ∧
        now.driver.ranges address = some ⟨size, some handle, some handle, false⟩)
      (setAccess hardware thread address size) (fun _ now => Draft start address handle now ∧
        now.driver.ranges address = some ⟨size, some handle, some handle, true⟩)
      (Draft start address handle) := by
  apply checked_keeps Draft.blind
  apply drive_keeps
  · exact fun _ _ holds => holds.1
  · rintro now _ driver ⟨draft, present⟩ outcome
    simp only [Driver.setAccess, Driver.onRange, present, Option.isSome_some, and_self, if_true]
      at outcome
    cases outcome
    refine ⟨⟨draft.aside.setRange draft.new ?_ ?_, draft.new, draft.free⟩, ?_⟩
    · exact draft.aside.owned.adjust present rfl
    · exact draft.aside.laid.adjust present rfl
    · simp only [setRange, update_self]
  · exact fun _ _ holds _ => holds.1

theorem Draft.recorded {now : World} {allocation : Allocation}
    (draft : Draft start allocation.address allocation.handle now)
    (starts : Sound promise hardware start) (reserved : now.driver.ranges allocation.address =
      some ⟨allocation.mappedSize, some allocation.handle, some allocation.handle, true⟩)
    (active : allocation.state = .active) (recorded : Recorded hardware allocation) :
    Sound promise hardware
      { now with allocations := hardware.arrange now.allocations allocation } := by
  have sound := draft.aside.sound starts
  have perm := hardware.arrange_perm now.allocations allocation
  have members : ∀ other, other ∈ hardware.arrange now.allocations allocation →
      other = allocation ∨ other ∈ now.allocations :=
    fun other member => mem_cons.mp (perm.mem_iff.mp member)
  have flags := active_iff.mp active
  constructor
  · apply (perm.map Allocation.address).nodup_iff.mpr
    refine nodup_cons.mpr ⟨fun known => ?_, sound.distinct⟩
    rcases mem_map.mp known with ⟨other, listed, equal⟩
    rw [draft.aside.allocations] at listed
    rcases starts.faithful other listed with ⟨range, present, _⟩
    rw [equal, draft.new] at present
    cases present
  · intro other member
    rcases members other member with rfl | listed
    · exact recorded
    · exact sound.recorded other listed
  · intro other member
    rcases members other member with rfl | listed
    · exact ⟨_, reserved, {
        sized := rfl
        mapped := fun _ => rfl
        held := fun _ => rfl
        accessible := fun _ => ⟨flags.1, flags.2.1, rfl⟩
        unmaps := fun _ => ⟨flags.1.symm, flags.2.2.symm, fun _ => flags.2.2⟩
        releases := fun _ => flags.2.1.symm }⟩
    · exact sound.faithful other listed
  · exact sound.owned
  · exact sound.laid

section Steps

variable (starts : Sound promise hardware start)
include starts

theorem undone_keeps {undo : Action Unit}
    (undoes : promise.Keeps (Draft start address handle) undo
      (fun _ => Draft start address handle) (Sound promise hardware)) :
    promise.Keeps (Draft start address handle) undo
      (fun _ => Sound promise hardware) (Sound promise hardware) :=
  .ending (fun _ _ draft => draft.aside.sound starts) undoes

theorem duplicateStep_keeps {known : Bool} :
    promise.Keeps
      (fun now => (Draft start address handle now ∧ now.driver.ranges address =
          some ⟨size, some handle, some handle, true⟩) ∧
        now.allocations.any (·.address == address) = known) (Program.onlyIf known (orElse
        (refuse thread "duplicate CUDA graph virtual address reservation" cudaErrorUnknown)
        (unwind address size handle)))
      (fun _ now => Draft start address handle now ∧ now.driver.ranges address =
        some ⟨size, some handle, some handle, true⟩) (Sound promise hardware) := by
  apply Triple.onlyIf
  · intro _
    apply orElse_keeps _ (undone_keeps starts unwind_keeps)
    exact refuse_keeps Draft.blind fun _ holds => holds.1.1
  · exact fun _ _ holds => holds.1

theorem allocateScoped_keeps {rawSize : Nat} {scope : RegionScope} (nonempty : 0 < rawSize) :
    promise.Keeps (Aside start) (allocateScoped hardware thread rawSize scope)
      (fun _ => Sound promise hardware) (Sound promise hardware) := by
  have blind := Sound.blind promise hardware
  have settles : ∀ now, Aside start now → Sound promise hardware now :=
    fun now aside => aside.sound starts
  apply Triple.bind (checked_keeps blind (cudaGetDevice_keeps fun _ => settles))
  intro current
  apply Triple.through fun _ => Aside start
  · exact Triple.onlyIf (fun _ => refuse_keeps blind settles) fun _ _ => id
  intro _
  apply Triple.through fun size now =>
    Aside start now ∧ mappedSize (hardware.granularity current) rawSize = .ok size
  · exact orElse_keeps (allocationProperties_keeps blind (fun _ => settles)
      fun _ _ => settles) (Triple.pure fun _ => id)
  intro size
  apply Triple.assuming
  intro computed
  apply Triple.bind (Triple.recover (checked_keeps Aside.blind createDraft_keeps)
    fun _ => Triple.raise fun _ => settles _)
  intro handle
  apply Triple.bind (orElse_keeps (checked_keeps (fun world thread update holds =>
    ⟨Aside.blind world thread update holds.1, holds.2⟩) reserve_keeps)
    (Triple.ending (fun _ => settles) releaseLooseAside_keeps))
  intro address
  apply Triple.bind (orElse_keeps (checked_keeps Draft.blind mapDraft_keeps)
    (undone_keeps starts abandon_keeps))
  intro _
  apply Triple.bind (orElse_keeps accessDraft_keeps (undone_keeps starts unwind_keeps))
  intro _
  apply Triple.bindRead
  intro known
  apply Triple.bind (duplicateStep_keeps starts)
  intro _
  let allocation : Allocation :=
    ⟨address, rawSize, size, current, scope.tag, scope.poolId, handle, true, true, true⟩
  apply Triple.through fun _ => Sound promise hardware
  · apply Triple.assign (fun _ _ => trivial)
    rintro now ⟨draft, reserved⟩
    have drafted : Draft start allocation.address allocation.handle now := draft
    exact drafted.recorded starts reserved rfl ⟨computed, nonempty⟩
  intro _
  exact Triple.pure fun _ => id

end Steps

end Allocate

/-! ## The other calls -/

section Calls

variable {promise : Promise} {hardware : Hardware} {thread : Nat} {start : World}

abbrev Promise.Preserves (promise : Promise) (hardware : Hardware) {α : Type}
    (program : Action α) : Prop :=
  promise.Keeps (Sound promise hardware) program (fun _ => Sound promise hardware)
    (Sound promise hardware)

structure Freed (start now : World) (original dropped : Allocation) : Prop where
  allocations : now.allocations = store dropped start.allocations
  same : dropped.identity = original.identity
  ranges : now.driver.ranges = update start.driver.ranges original.address none
  owned : now.driver.Owned
  laid : now.driver.Laid

variable {original : Allocation} {dropped : Allocation} {now : World}

theorem Freed.erased (freed : Freed start now original dropped)
    (starts : Sound promise hardware start) :
    Sound promise hardware { now with
      allocations := now.allocations.filter (·.address != original.address) } := by
  have equal := Allocation.address_of_identity freed.same
  have members : ∀ other ∈ now.allocations.filter (·.address != original.address),
      other ∈ start.allocations ∧ other.address ≠ original.address := by
    intro other member
    rcases mem_filter.mp member with ⟨listed, different⟩
    have elsewhere : other.address ≠ original.address := by simpa using different
    rw [freed.allocations] at listed
    rcases mem_store listed with changed | ⟨kept, _⟩
    · rw [changed, equal] at elsewhere
      exact absurd rfl elsewhere
    · exact ⟨kept, elsewhere⟩
  constructor
  · have distinct : (now.allocations.map Allocation.address).Nodup := by
      rw [freed.allocations, map_address_store]
      exact starts.distinct
    exact distinct.sublist (filter_sublist.map _)
  · exact fun other member => starts.recorded other (members other member).1
  · intro other member
    rcases members other member with ⟨listed, elsewhere⟩
    rw [freed.ranges, update_of_ne elsewhere]
    exact starts.faithful other listed
  · exact freed.owned
  · exact freed.laid

theorem addressFree_keeps (starts : Sound promise hardware start)
    (listed : original ∈ start.allocations) :
    promise.Keeps (Dropped promise start original dropped)
      (checked hardware thread "cuMemAddressFree"
        (drive .addressFree (·.addressFree dropped.address dropped.mappedSize)))
      (fun _ now => Freed start now original dropped) (Sound promise hardware) := by
  apply checked_keeps (.blind promise hardware)
  apply drive_keeps
  · exact fun _ now holds => holds.working.sound starts listed
  · rintro now _ driver holds outcome
    rcases holds.working with ⟨range, focus, same, faithful⟩
    have equal := Allocation.address_of_identity same
    simp only [addressFree, onRange, focus.here] at outcome
    split at outcome
    · cases outcome
      refine ⟨focus.allocations, same, ?_, ?_, ?_⟩
      · simp only [setRange]
        rw [focus.ranges, update_idem, equal]
      · exact focus.owned.clear
      · exact focus.laid.clear
    · cases outcome
  · exact fun now _ holds _ => holds.working.sound starts listed

theorem freeManaged_keeps {pointer : Nat} {allocation : Allocation} :
    promise.Preserves hardware (freeManaged hardware thread pointer allocation) := by
  have blind := Sound.blind promise hardware
  apply Triple.bind (synchronizeDevice_keeps (fun _ _ => id) blind blind)
  intro _
  apply Triple.bindRead
  intro found
  cases found with
  | none => exact refuse_keeps blind fun _ holds => holds.1
  | some current =>
    apply Triple.pinned
    rintro start ⟨starts, located⟩
    have listed := mem_of_find?_eq_some located
    have here : current.address = pointer := by
      simpa using find?_some located
    have opened : promise.Keeps (Working promise start current current)
        (deviceGuard hardware thread current.device do
          let dropped ← dropBacking hardware thread .free .free "(cudaFree)" current
          checked hardware thread "cuMemAddressFree"
            (drive .addressFree (·.addressFree dropped.address dropped.mappedSize))
          Program.assign fun world =>
            { world with allocations := world.allocations.filter (·.address != pointer) })
        (fun _ => Sound promise hardware) (Sound promise hardware) := by
      apply deviceGuard_keeps (fun _ now working => working.sound starts listed) Working.blind
        (fun _ => blind) blind
      apply Triple.bind (Triple.failing (fun _ _ halted => halted.sound)
        (dropBacking_keeps starts listed (by decide)))
      intro dropped
      apply Triple.bind (addressFree_keeps starts listed)
      intro _
      apply Triple.assign (fun _ _ => trivial)
      intro now freed
      rw [← here]
      exact freed.erased starts
    apply Triple.starting _ opened
    rintro _ rfl
    exact Working.opened starts listed

theorem forwardCall_keeps {name : String} :
    promise.Preserves hardware (forwardCall hardware thread name) := by
  have blind := Sound.blind promise hardware
  have resolves : promise.Preserves hardware
      (Program.recover (quiet .resolve) fun _ => refuse thread
        ("dlsym(RTLD_NEXT, " ++ name ++ ") failed: "
          ++ hardware.loaderError.getD "unknown error") cudaErrorUnknown) :=
    Triple.recover (quiet_keeps fun _ _ => id) fun _ => refuse_keeps blind fun _ => id
  apply Triple.bind resolves
  intro _
  apply Triple.bind (quiet_keeps fun _ _ => id)
  intro _
  exact Triple.pure fun _ => id

/-- A call which answers with a code in every case. -/
theorem answering_keeps {α β : Type} {body : Action α} {code : Failure → β} {answer : α → β}
    (keeps : promise.Preserves hardware body) :
    promise.Preserves hardware
      (Program.recover (Program.bind body fun value => Program.pure (answer value))
        fun failure => Program.pure (code failure)) :=
  .recover (.bind keeps fun _ => .pure fun _ => id) fun _ => .pure fun _ => id

theorem forwarded_keeps {name : String} :
    promise.Preserves hardware (Program.recover (forwardCall hardware thread name)
      fun failure => Program.pure (statusOf failure)) :=
  .recover forwardCall_keeps fun _ => .pure fun _ => id

theorem cudaMalloc_keeps {size : Nat} :
    promise.Preserves hardware (cudaMalloc hardware thread size) := by
  apply Triple.bindRead
  intro scopes
  apply Triple.starting fun _ holds => holds.1
  cases scopes with
  | nil => exact .bind forwarded_keeps fun _ => .pure fun _ => id
  | cons scope rest =>
    by_cases empty : size = 0
    · simp only [empty, if_true]
      exact .bind forwarded_keeps fun _ => .pure fun _ => id
    · simp only [empty, if_false]
      apply answering_keeps
      apply Triple.pinned
      intro start starts
      apply Triple.starting _ (allocateScoped_keeps starts (Nat.pos_of_ne_zero empty))
      rintro _ rfl
      exact Aside.refl starts

theorem cudaFree_keeps {pointer : Nat} :
    promise.Preserves hardware (cudaFree hardware thread pointer) := by
  apply Triple.bindRead
  intro found
  apply Triple.starting fun _ holds => holds.1
  cases found with
  | none => exact forwarded_keeps
  | some allocation => exact answering_keeps freeManaged_keeps

theorem refusal_keeps {condition : Bool} {message : String} : promise.Preserves hardware
    (Program.onlyIf condition (refuse thread message cudaErrorUnknown)) :=
  .onlyIf (fun _ => refuse_keeps (.blind promise hardware) fun _ => id) fun _ _ => id

theorem regionPush_keeps {tag : String} {device : Int} {poolId : Nat} :
    promise.Preserves hardware (regionPush hardware thread tag device poolId) := by
  have blind := Sound.blind promise hardware
  have checks : promise.Preserves hardware (Program.onlyIf (0 ≤ device) do
      let current ← checked hardware thread "cudaGetDevice" (cudaGetDevice thread)
      Program.onlyIf (current != device) (refuse thread
        "CUDA graph region device does not match the current CUDA device"
        cudaErrorUnknown)) := by
    apply Triple.onlyIf
    · intro _
      apply Triple.bind (checked_keeps blind (cudaGetDevice_keeps fun _ _ => id))
      exact fun _ => refusal_keeps
    · exact fun _ _ => id
  apply answering_keeps
  apply Triple.bind refusal_keeps
  intro _
  apply Triple.bind checks
  intro _
  apply Triple.assign (fun _ _ => trivial)
  exact fun _ sound => { sound with }

theorem regionPop_keeps : promise.Preserves hardware (regionPop thread) := by
  apply answering_keeps
  apply Triple.bindRead
  intro scopes
  apply Triple.starting fun _ holds => holds.1
  apply Triple.bind refusal_keeps
  intro _
  apply Triple.assign (fun _ _ => trivial)
  exact fun _ sound => { sound with }

/-- Records of the start other than the one under work are still listed. -/
theorem Working.others {allocation other : Allocation}
    (working : Working promise start original allocation now) (listed : other ∈ start.allocations)
    (different : other.address ≠ original.address) : other ∈ now.allocations := by
  rcases working with ⟨range, focus, same, _⟩
  rw [focus.allocations]
  apply mem_store_other listed
  rwa [Allocation.address_of_identity same]

theorem graphPause_keeps {tag : String} {device : Int} :
    promise.Preserves hardware (graphPause hardware thread tag device) := by
  have blind := Sound.blind promise hardware
  apply answering_keeps
  apply Triple.bindRead
  intro scopes
  apply Triple.starting fun _ holds => holds.1
  apply Triple.bind refusal_keeps
  intro _
  apply Triple.bind (synchronizeMatchingDevices_keeps (fun _ _ => id) blind blind)
  intro _
  apply Triple.bindRead
  intro allocations
  -- What is left to pause is listed as it was read, each address once.
  apply Triple.consequence
    (Triple.forEach (fun rest now => Sound promise hardware now ∧
      (rest.map Allocation.address).Nodup ∧ ∀ other ∈ rest, other ∈ now.allocations) _ allocations)
  · rintro now ⟨sound, rfl⟩
    exact ⟨sound, sound.distinct, fun _ => id⟩
  · exact fun _ => id
  · exact fun _ _ holds => holds.1
  · exact fun _ _ => id
  · intro allocation rest
    apply Triple.onlyIf
    · intro _
      apply Triple.pinned
      rintro start ⟨starts, distinct, listed⟩
      have here := listed allocation mem_cons_self
      rcases nodup_cons.mp distinct with ⟨alone, distinctRest⟩
      apply Triple.consequence (pauseAllocation_keeps starts here) _ (fun _ => id) _ fun _ _ => id
      · rintro _ rfl
        exact Working.opened starts here
      · rintro _ now ⟨dropped, working⟩
        refine ⟨working.sound starts here, distinctRest, fun other member => ?_⟩
        apply working.others (listed other (mem_cons_of_mem _ member))
        intro equal
        exact alone (mem_map.mpr ⟨other, member, equal⟩)
    · rintro _ now ⟨sound, distinct, listed⟩
      exact ⟨sound, (nodup_cons.mp distinct).2, (forall_mem_cons.mp listed).2⟩

end Calls

end Coldsnap.GraphMemory
