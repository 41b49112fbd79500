import Coldsnap.GraphMemory.Faithful

/-! # Dropping and restoring the backing of one record

What the driver calls do to the range of the record under work, and from that
the contracts of `pause_allocation` and `resume_allocation`.
-/

namespace Coldsnap.GraphMemory

open Program Driver

section Calls

variable {promise : Promise} {start : World} {allocation : Allocation} {range : Range}
variable {failed : World → Prop}

theorem unmap_keeps {site : UnmapSite} (sized : range.size = allocation.mappedSize)
    (mapped : range.mapping.isSome = true) :
    promise.Keeps (Focus start allocation range)
      (drive (.unmap site) (·.unmap allocation.address allocation.mappedSize))
      (fun _ => Focus start allocation range.unmapped)
      (fun now => promise.Faults (.unmap site) ∧ Focus start allocation range now) := by
  have effect : ∀ now, Focus start allocation range now →
      now.driver.unmap allocation.address allocation.mappedSize =
        .ok ((), now.driver.setRange allocation.address (some range.unmapped)) := by
    intro now focus
    simp [unmap, onRange, focus.here, sized, mapped]
  apply drive_effect (fun faults now focus => ⟨faults, focus⟩) effect
  exact fun now focus => focus.setRange rfl (focus.owned.adjust focus.here rfl)

theorem setAccess_keeps {hardware : Hardware} {thread : Nat}
    (sized : range.size = allocation.mappedSize) (mapped : range.mapping.isSome = true) :
    promise.Keeps (Focus start allocation range)
      (setAccess hardware thread allocation.address allocation.mappedSize)
      (fun _ => Focus start allocation { range with accessible := true })
      (fun now => Focus start allocation range now ∧ ¬promise.calm) := by
  have effect : ∀ now, Focus start allocation range now →
      now.driver.setAccess allocation.address allocation.mappedSize =
        .ok ((), now.driver.setRange allocation.address
          (some { range with accessible := true })) := by
    intro now focus
    simp [Driver.setAccess, onRange, focus.here, sized, mapped]
  apply checked_keeps fun world thread update holds =>
    ⟨Focus.blind world thread update holds.1, holds.2⟩
  apply drive_effect (fun faults now focus => ⟨focus, faults.not_calm⟩) effect
  exact fun now focus => focus.setRange rfl (focus.owned.adjust focus.here rfl)

variable {handle : Nat} {site : ReleaseSite}

theorem release_keeps (held : range.held = some handle) :
    promise.Keeps (Focus start allocation range)
      (drive (.release site) (·.release handle))
      (fun _ => Focus start allocation { range with held := none })
      (fun now => promise.Faults (.release site) ∧ Focus start allocation range now) := by
  have effect : ∀ now, Focus start allocation range now →
      now.driver.release handle = .ok ((), now.driver.without handle) :=
    fun now focus => if_pos (focus.owned.live focus.here held)
  apply drive_effect (fun faults now focus => ⟨faults, focus⟩) effect
  intro now focus
  have dropped := focus.without (focus.owned.free focus.here held)
  rwa [Range.without, if_pos held] at dropped

def Driver.Loose (driver : Driver) (handle : Nat) : Prop :=
  handle ∈ driver.handles ∧
    ∀ {address range}, driver.ranges address = some range → range.held ≠ some handle

theorem create_keeps {hardware : Hardware} :
    promise.Keeps (Focus start allocation range) (drive .create (create hardware))
      (fun handle now => Focus start allocation range now ∧ now.driver.Loose handle)
      (fun now => Focus start allocation range now ∧ ¬promise.calm) := by
  apply drive_keeps
  · exact fun faults now focus => ⟨focus, faults.not_calm⟩
  · intro now handle driver focus outcome
    cases outcome
    refine ⟨focus.create _, List.mem_cons_self, ?_⟩
    intro address found present holds
    exact hardware.pickHandle_fresh _ (focus.owned.live present holds)
  · exact nofun

theorem map_keeps (sized : range.size = allocation.mappedSize) :
    promise.Keeps (fun now => Focus start allocation range now ∧ now.driver.Loose handle)
      (drive .map (·.map allocation.address allocation.mappedSize handle))
      (fun _ now => Focus start allocation
        ⟨allocation.mappedSize, some handle, some handle, false⟩ now ∧ range.mapping = none)
      (fun now => (Focus start allocation range now ∧ now.driver.Loose handle) ∧
        (promise.calm → range.mapping ≠ none)) := by
  apply drive_keeps
  · exact fun faults now holds => ⟨holds, fun calm => absurd calm faults.not_calm⟩
  · rintro now _ driver ⟨focus, loose⟩ outcome
    by_cases unmapped : range.mapping = none
    · have effect : now.driver.map allocation.address allocation.mappedSize handle =
          .ok ((), now.driver.setRange allocation.address
            (some ⟨allocation.mappedSize, some handle, some handle, false⟩)) := by
        simp [map, onRange, focus.here, sized, unmapped, loose.1]
      rw [effect] at outcome
      cases outcome
      refine ⟨focus.setRange sized.symm (focus.owned.setRange ?_), unmapped⟩
      intro new other equal holds
      cases equal
      cases holds
      exact ⟨loose.1, fun _ => loose.2⟩
    · simp [map, onRange, focus.here, unmapped] at outcome
  · rintro now result ⟨focus, loose⟩ outcome
    refine ⟨⟨focus, loose⟩, fun _ unmapped => ?_⟩
    simp [map, onRange, focus.here, sized, unmapped, loose.1] at outcome

theorem releaseLoose_keeps :
    promise.Keeps (fun now => Focus start allocation range now ∧ now.driver.Loose handle)
      (drive (.release site) (·.release handle)) (fun _ => Focus start allocation range)
      (Focus start allocation range) := by
  apply drive_effect (fun _ _ holds => holds.1) fun _ holds => if_pos holds.2.1
  intro now ⟨focus, loose⟩
  have dropped := focus.without (fun _ => loose.2)
  rwa [Range.without, if_neg (loose.2 focus.here)] at dropped

theorem keep_keeps {changed : Allocation} (equal : changed.address = allocation.address) :
    promise.Keeps (Focus start allocation range) (keep changed)
      (fun _ => Focus start changed range) failed :=
  .assign (fun _ _ => trivial) fun _ focus => focus.keep equal

end Calls

section Records

variable {promise : Promise} {hardware : Hardware} {thread : Nat} {start : World}
variable {original allocation : Allocation} {range : Range}

/-- A call failed, and the records are as sound as before. -/
structure Halted (promise : Promise) (hardware : Hardware) (now : World) : Prop where
  sound : Sound promise hardware now
  calmless : ¬promise.calm

theorem Halted.blind (promise : Promise) (hardware : Hardware) : Blind (Halted promise hardware) :=
  fun world thread update halted =>
    ⟨halted.sound.blind promise hardware world thread update, halted.calmless⟩

def Working (promise : Promise) (start : World) (original allocation : Allocation)
    (now : World) : Prop :=
  ∃ range, Focus start allocation range now ∧
    allocation.identity = original.identity ∧ Faithful promise range allocation

theorem Working.blind : Blind (Working promise start original allocation) := by
  rintro world thread update ⟨range, focus, rest⟩
  exact ⟨range, focus.blind world thread update, rest⟩

theorem Working.sound {now : World} (working : Working promise start original allocation now)
    (starts : Sound promise hardware start) (listed : original ∈ start.allocations) :
    Sound promise hardware now := by
  rcases working with ⟨range, focus, same, faithful⟩
  exact focus.sound starts listed same faithful

theorem Working.opened (starts : Sound promise hardware start)
    (listed : original ∈ start.allocations) : Working promise start original original start := by
  rcases starts.faithful original listed with ⟨range, reserved, faithful⟩
  exact ⟨range, Focus.opened starts listed reserved, rfl, faithful⟩

section

variable (faithful : Faithful promise range allocation)

include faithful

theorem Faithful.unmap :
    Faithful promise range.unmapped { allocation with accessible := false, mapped := false } where
  __ := faithful
  mapped := nofun
  accessible := nofun
  unmaps _ := ⟨rfl, rfl, nofun⟩

/-- A record without access whose unmap failed still describes the range, unless
unmaps are promised. -/
theorem Faithful.hide (fails : ¬promise.unmaps) :
    Faithful promise range { allocation with accessible := false } where
  __ := faithful
  accessible := nofun
  unmaps promised := absurd promised fails

theorem Faithful.release (unmapped : allocation.mapped = false) :
    Faithful promise { range with held := none }
      { allocation with handleValid := false, handle := 0 } where
  __ := faithful
  held := nofun
  accessible visible := by
    have mapped := (faithful.accessible visible).1
    rw [unmapped] at mapped
    cases mapped
  releases _ := rfl

end

structure Dropped (promise : Promise) (start : World) (original allocation : Allocation)
    (now : World) : Prop where
  working : Working promise start original allocation now
  unmapped : allocation.mapped = false
  released : allocation.handleValid = false

variable {text : String}

section

variable (allocation : Allocation)

theorem Allocation.withoutHandle_mapped : allocation.withoutHandle.mapped = allocation.mapped := by
  unfold Allocation.withoutHandle
  split <;> rfl

theorem Allocation.withoutHandle_handleValid : allocation.withoutHandle.handleValid = false := by
  unfold Allocation.withoutHandle
  split
  · rfl
  · simp_all

theorem Allocation.withoutHandle_identity :
    allocation.withoutHandle.identity = allocation.identity := by
  unfold Allocation.withoutHandle
  split <;> rfl

theorem Allocation.withoutMapping_mapped : allocation.withoutMapping.mapped = false := by
  unfold Allocation.withoutMapping
  split
  · rfl
  · simp_all

end

section

variable (starts : Sound promise hardware start) (listed : original ∈ start.allocations)

include starts listed

section

variable (same : allocation.identity = original.identity)
  (faithful : Faithful promise range allocation)

include same faithful

theorem releaseHandle_keeps {site : ReleaseSite} (unmapped : allocation.mapped = false) :
    promise.Keeps (Focus start allocation range)
      (releaseHandle hardware thread site text allocation)
      (fun _ now => ∃ next, Focus start allocation.withoutHandle next now ∧
        Faithful promise next allocation.withoutHandle ∧ next.mapping = range.mapping)
      (Halted promise hardware) := by
  unfold releaseHandle Allocation.withoutHandle
  apply Triple.onlyIf
  · intro valid
    rw [if_pos valid]
    apply Triple.through fun _ => Focus start allocation { range with held := none }
    · apply checked_keeps (.blind promise hardware)
      apply Triple.failing _ (release_keeps (faithful.held valid))
      rintro _ world ⟨faults, focused⟩
      exact ⟨focused.sound starts listed same faithful, faults.not_calm⟩
    intro _
    apply Triple.assign (fun _ _ => trivial)
    intro world focused
    exact ⟨_, focused.keep rfl, faithful.release unmapped, rfl⟩
  · intro invalid now focus
    rw [if_neg (by simp [invalid])]
    exact ⟨range, focus, faithful, rfl⟩

theorem unmapRange_keeps {site : UnmapSite} (elsewhere : site ≠ .allocate) :
    promise.Keeps (Focus start allocation range)
      (unmapRange hardware thread site text allocation)
      (fun _ => Working promise start original allocation.withoutMapping)
      (Halted promise hardware) := by
  let hidden : Allocation := { allocation with accessible := false }
  unfold unmapRange Allocation.withoutMapping
  apply Triple.onlyIf
  · intro mapped
    rw [if_pos mapped]
    have hides : promise.Keeps (Focus start allocation range) (keep hidden)
        (fun _ => Focus start hidden range)
        (Halted promise hardware) := keep_keeps rfl
    have calls : promise.Keeps (Focus start hidden range)
        (drive (.unmap site) (·.unmap hidden.address hidden.mappedSize))
        (fun _ => Focus start hidden range.unmapped)
        (fun now => promise.Faults (.unmap site) ∧ Focus start hidden range now) :=
      unmap_keeps faithful.sized (faithful.mapped mapped)
    apply Triple.bind hides
    intro _
    apply Triple.through fun _ => Focus start hidden range.unmapped
    · apply checked_keeps (.blind promise hardware)
      apply Triple.failing _ calls
      -- A failed unmap leaves the record without access and the range with it.
      rintro _ world ⟨faults, focused⟩
      exact ⟨focused.sound starts listed same (faithful.hide (faults.not_unmaps elsewhere)),
        faults.not_calm⟩
    intro _
    apply Triple.assign (fun _ _ => trivial)
    intro world focused
    exact ⟨_, focused.keep rfl, same, faithful.unmap⟩
  · intro unmapped now focus
    rw [if_neg (by simp [unmapped])]
    exact ⟨range, focus, same, faithful⟩

end

theorem dropBacking_keeps {unmapSite : UnmapSite} {releaseSite : ReleaseSite} {suffix : String}
    (elsewhere : unmapSite ≠ .allocate) :
    promise.Keeps (Working promise start original allocation)
      (dropBacking hardware thread unmapSite releaseSite suffix allocation)
      (Dropped promise start original)
      (Halted promise hardware) := by
  have unmapped := allocation.withoutMapping_mapped
  apply Triple.through fun _ => Working promise start original allocation.withoutMapping
  · apply Triple.fixing
    intro range
    apply Triple.assuming
    rintro ⟨same, faithful⟩
    exact unmapRange_keeps starts listed same faithful elsewhere
  intro _
  apply Triple.through fun _ now =>
    Dropped promise start original allocation.withoutMapping.withoutHandle now
  · apply Triple.fixing
    intro range
    apply Triple.assuming
    rintro ⟨same, faithful⟩
    apply Triple.ending _ (releaseHandle_keeps starts listed same faithful unmapped)
    rintro _ world ⟨next, focused, described, _⟩
    exact ⟨⟨next, focused, (Allocation.withoutHandle_identity _).trans same, described⟩,
      (Allocation.withoutHandle_mapped _).trans unmapped,
      Allocation.withoutHandle_handleValid _⟩
  intro _
  exact .pure fun _ => id

theorem pauseAllocation_keeps :
    promise.Keeps (Working promise start original original)
      (pauseAllocation hardware thread original)
      (fun _ now => ∃ dropped, Working promise start original dropped now)
      (Sound promise hardware) := by
  apply deviceGuard_keeps (fun _ world working => working.sound starts listed) Working.blind
  · rintro _ world thread update ⟨dropped, working⟩
    exact ⟨dropped, working.blind world thread update⟩
  · exact .blind promise hardware
  · apply Triple.through (Dropped promise start original)
    · exact .failing (fun _ _ holds => holds.1) (dropBacking_keeps starts listed (by decide))
    intro dropped
    apply Triple.require
    · exact fun world holds _ => ⟨dropped, holds.working⟩
    · exact fun world holds _ => holds.working.sound starts listed

/-! ## Resume -/

def Resumable (allocation : Allocation) (range : Range) : Prop :=
  allocation.state = .active ∨ (allocation.mapped = false ∧ range.mapping = none)

instance (allocation : Allocation) (range : Range) : Decidable (Resumable allocation range) :=
  inferInstanceAs (Decidable (_ ∨ _))

structure Restored (promise : Promise) (start now : World) (original : Allocation)
    (resumed : Allocation) : Prop where
  same : resumed.identity = original.identity
  active : resumed.state = .active
  described : ∃ range, Focus start resumed range now ∧ Faithful promise range resumed ∧
    range.mapping.isSome = true ∧ range.accessible = true

omit starts listed in
theorem Restored.blind {resumed : Allocation} :
    Blind fun now => Restored promise start now original resumed := by
  rintro world thread update ⟨same, active, range, focus, rest⟩
  exact ⟨same, active, range, focus.blind world thread update, rest⟩

omit starts listed in
theorem active_iff : allocation.state = .active ↔
    allocation.mapped = true ∧ allocation.handleValid = true ∧ allocation.accessible = true := by
  unfold Allocation.state
  cases allocation.mapped <;> cases allocation.handleValid <;> cases allocation.accessible <;>
    decide

/-- What a rollback leaves: nothing the record admits to. -/
structure RolledBack (promise : Promise) (size : Nat) (range : Range) : Prop where
  sized : range.size = size
  inaccessible : range.accessible = false
  unmaps : promise.unmaps → range.mapping = none

variable {handle : Nat} {mapped : Allocation}

/-- The rollback after failed access rights: both calls may fail unnoticed. -/
theorem rollBack_keeps (same : mapped.identity = original.identity)
    (hidden : mapped.accessible = false) (calmless : ¬promise.calm) :
    promise.Keeps
      (Focus start mapped ⟨mapped.mappedSize, some mapped.handle, some mapped.handle, false⟩)
      (rollBack mapped) (fun _ => Halted promise hardware) (Halted promise hardware) := by
  apply Triple.through fun _ now => ∃ range, Focus start mapped range now ∧
    RolledBack promise mapped.mappedSize range ∧ range.held = some mapped.handle
  · apply ignoring_keeps
    apply Triple.consequence (unmap_keeps rfl rfl) (fun _ => id) (fun _ => id)
    · intro _ world focus
      exact ⟨_, focus, ⟨rfl, rfl, fun _ => rfl⟩, rfl⟩
    · rintro _ world ⟨faults, focus⟩
      refine ⟨_, focus, ⟨rfl, rfl, fun promised => ?_⟩, rfl⟩
      exact absurd promised (faults.not_unmaps (by decide))
  intro _
  apply Triple.through fun _ now => ∃ range, Focus start mapped range now ∧
    RolledBack promise mapped.mappedSize range ∧ (promise.releases → range.held = none)
  · apply Triple.fixing
    intro range
    apply Triple.assuming
    rintro ⟨rolled, held⟩
    apply ignoring_keeps
    apply Triple.consequence (release_keeps held) (fun _ => id) (fun _ => id)
    · intro _ world focused
      exact ⟨{ range with held := none }, focused, { rolled with }, fun _ => rfl⟩
    · rintro _ world ⟨faults, focused⟩
      exact ⟨range, focused, rolled, fun promised => absurd promised faults.not_releases⟩
  intro _
  apply Triple.assign (fun _ _ => trivial)
  rintro world ⟨range, focus, rolled, released⟩
  let cleared : Allocation := { mapped with handle := 0, handleValid := false, mapped := false }
  have faithful : Faithful promise range cleared := {
    sized := rolled.sized
    mapped := nofun
    held := nofun
    accessible := fun visible => nomatch hidden.symm.trans visible
    unmaps := fun promised => ⟨by rw [rolled.unmaps promised]; rfl,
      rolled.inaccessible.trans hidden.symm, nofun⟩
    releases := fun promised => by rw [released promised]; rfl }
  have kept : Focus start cleared range
      { world with allocations := store cleared world.allocations } := focus.keep rfl
  exact ⟨kept.sound starts listed same faithful, calmless⟩

omit starts listed in
theorem allocationProperties_keeps {before failed : World → Prop} {device : Int} {rawSize : Nat}
    (blind : Blind failed) (faults : ¬promise.calm → ∀ world, before world → failed world)
    (refuses : ∀ message, mappedSize (hardware.granularity device) rawSize = .error message →
      ∀ world, before world → failed world) :
    promise.Keeps before (allocationProperties hardware thread device rawSize)
      (fun size now => before now ∧
        mappedSize (hardware.granularity device) rawSize = .ok size) failed := by
  have asks : ∀ text label, promise.Keeps before (checked hardware thread text (quiet label))
      (fun _ => before) failed :=
    fun _ _ => checked_keeps blind (quiet_keeps fun fault => faults fault.not_calm)
  apply Triple.bind (asks _ _)
  intro _
  apply Triple.bind (asks _ _)
  intro _
  apply Triple.bind (asks _ _)
  intro _
  cases outcome : mappedSize (hardware.granularity device) rawSize with
  | ok size => exact .pure fun _ holds => ⟨holds, rfl⟩
  | error message => exact refuse_keeps blind (refuses message outcome)

omit starts listed in
theorem mapNew_keeps (sized : range.size = allocation.mappedSize)
    (settles : ∀ now, Focus start allocation range now → Sound promise hardware now)
    (free : promise.calm → range.mapping = none) :
    promise.Keeps (fun now => Focus start allocation range now ∧ now.driver.Loose handle) (orElse
        (checked hardware thread text
          (drive .map (·.map allocation.address allocation.mappedSize handle)))
        (ignoring (drive (.release .resumeMap) (·.release handle))))
      (fun _ now => Focus start allocation
        ⟨allocation.mappedSize, some handle, some handle, false⟩ now ∧ range.mapping = none)
      (Halted promise hardware) := by
  apply orElse_keeps
  · apply checked_keeps _ (map_keeps sized)
    exact fun world thread update holds =>
      ⟨⟨Focus.blind world thread update holds.1.1, holds.1.2⟩, holds.2⟩
  · apply Triple.assuming
    intro refused
    have calmless : ¬promise.calm := fun calm => refused calm (free calm)
    apply ignoring_keeps
    exact .consequence releaseLoose_keeps (fun _ => id) (fun _ => id)
      (fun _ world focus => ⟨settles world focus, calmless⟩)
      fun _ world focus => ⟨settles world focus, calmless⟩

/-- Access rights for a new mapping, and the record which says so. -/
theorem grantAccess_keeps (same : mapped.identity = original.identity)
    (hidden : mapped.accessible = false)
    (holds : mapped.handleValid = true ∧ mapped.mapped = true) :
    promise.Keeps
      (Focus start mapped ⟨mapped.mappedSize, some mapped.handle, some mapped.handle, false⟩)
      (do
        orElse (setAccess hardware thread mapped.address mapped.mappedSize) (rollBack mapped)
        keep { mapped with accessible := true })
      (fun _ now => ∃ resumed, Restored promise start now original resumed)
      (Halted promise hardware) := by
  apply Triple.through fun _ =>
    Focus start mapped ⟨mapped.mappedSize, some mapped.handle, some mapped.handle, true⟩
  · apply orElse_keeps (setAccess_keeps rfl rfl)
    apply Triple.assuming
    exact rollBack_keeps starts listed same hidden
  intro _
  apply Triple.assign (fun _ _ => trivial)
  intro world focus
  let active : Allocation := { mapped with accessible := true }
  have state : active.state = .active := active_iff.mpr ⟨holds.2, holds.1, rfl⟩
  have faithful : Faithful promise
      ⟨mapped.mappedSize, some mapped.handle, some mapped.handle, true⟩ active := {
    sized := rfl
    mapped := fun _ => rfl
    held := fun _ => rfl
    accessible := fun _ => ⟨holds.2, holds.1, rfl⟩
    unmaps := fun _ => ⟨holds.2.symm, rfl, fun _ => rfl⟩
    releases := fun _ => holds.1.symm }
  exact ⟨active, same, state, _, focus.keep rfl, faithful, rfl, rfl⟩

theorem restoreBacking_keeps (same : allocation.identity = original.identity)
    (faithful : Faithful promise range allocation) (free : promise.calm → range.mapping = none) :
    promise.Keeps (Focus start allocation range)
      (restoreBacking hardware thread allocation)
      (fun _ now => (∃ resumed, Restored promise start now original resumed) ∧
        range.mapping = none) (Halted promise hardware) := by
  have settles : ∀ now, Focus start allocation range now → Sound promise hardware now :=
    fun now focus => focus.sound starts listed same faithful
  have recorded := (starts.recorded original listed).of_identity same
  apply Triple.bind (allocationProperties_keeps (.blind promise hardware)
    (fun calmless world focus => ⟨settles world focus, calmless⟩)
    fun _ refused => nomatch recorded.sized.symm.trans refused)
  intro size
  apply Triple.assuming
  intro computed
  cases recorded.sized.symm.trans computed
  apply Triple.through fun _ => Focus start allocation range
  · apply Triple.onlyIf
    · simp
    · exact fun _ _ => id
  intro _
  apply Triple.through fun handle now => Focus start allocation range now ∧ now.driver.Loose handle
  · apply checked_keeps (.blind promise hardware)
    exact .failing (fun _ world holds => ⟨settles world holds.1, holds.2⟩) create_keeps
  intro handle
  apply Triple.bind (mapNew_keeps faithful.sized settles free)
  intro _
  apply Triple.assuming
  intro wasFree
  let mapped : Allocation :=
    { allocation with handle := handle, handleValid := true, mapped := true, accessible := false }
  have stores : promise.Keeps
      (Focus start allocation ⟨allocation.mappedSize, some handle, some handle, false⟩)
      (keep mapped)
      (fun _ => Focus start mapped ⟨mapped.mappedSize, some handle, some handle, false⟩)
      (Halted promise hardware) := keep_keeps rfl
  apply Triple.bind stores
  intro _
  have sameMapped : mapped.identity = original.identity := same
  apply Triple.ending _ (grantAccess_keeps starts listed sameMapped rfl ⟨rfl, rfl⟩)
  exact fun _ _ resumed => ⟨resumed, wasFree⟩

/-- `resume_allocation` returns from resumable records only, and from each of them
when nothing fails. -/
theorem resumeAllocation_keeps (reserved : start.driver.ranges original.address = some range)
    (resumable : promise.calm → Resumable original range) :
    promise.Keeps (Focus start original range)
      (resumeAllocation hardware thread original)
      (fun _ now => (∃ resumed, Restored promise start now original resumed) ∧
        Resumable original range) (Halted promise hardware) := by
  have faithful : Faithful promise range original := by
    rcases starts.faithful original listed with ⟨found, present, faithful⟩
    rw [reserved] at present
    cases present
    exact faithful
  have settles : ∀ now, Focus start original range now → Sound promise hardware now :=
    fun now focus => focus.sound starts listed rfl faithful
  apply deviceGuard_keeps (fun calmless world focus => ⟨settles world focus, calmless⟩) Focus.blind
  · rintro _ world thread update ⟨⟨resumed, restored⟩, able⟩
    exact ⟨⟨resumed, restored.blind world thread update⟩, able⟩
  · exact .blind promise hardware
  apply Triple.onlyIf
  · intro inactive
    have stalled : original.state ≠ .active := by simpa using inactive
    apply Triple.through fun _ now => Focus start original range now ∧ original.mapped = false
    · apply Triple.onlyIf
      · intro mapped
        apply refuse_keeps (.blind promise hardware)
        refine fun world focus => ⟨settles world focus, fun calm => ?_⟩
        rcases resumable calm with active | ⟨unmapped, _⟩
        · exact stalled active
        · rw [mapped] at unmapped
          cases unmapped
      · exact fun unmapped _ focus => ⟨focus, unmapped⟩
    intro _
    apply Triple.assuming
    intro unmapped
    apply Triple.bind (releaseHandle_keeps starts listed rfl faithful unmapped)
    intro _
    apply Triple.fixing
    intro next
    apply Triple.assuming
    rintro ⟨described, kept⟩
    have free : promise.calm → next.mapping = none := by
      intro calm
      rw [kept]
      rcases resumable calm with active | ⟨_, free⟩
      · exact absurd active stalled
      · exact free
    apply Triple.ending _
      (restoreBacking_keeps starts listed original.withoutHandle_identity described free)
    rintro _ world ⟨resumed, wasFree⟩
    exact ⟨resumed, .inr ⟨unmapped, kept.symm.trans wasFree⟩⟩
  · intro active now focus
    have state : original.state = .active := by simpa using active
    have flags := active_iff.mp state
    refine ⟨⟨original, rfl, state, range, focus, faithful, faithful.mapped flags.1, ?_⟩, .inl state⟩
    exact (faithful.accessible flags.2.2).2.2

end

end Records

end Coldsnap.GraphMemory
