import Coldsnap.DiskBackend.RestoreCorrect

/-! # Mapping the weights for a restore

An earlier restore may have stopped half-way: `_restore_mapped` names the
allocations which it mapped and did not commit. The others are mapped now.
-/

namespace Coldsnap.DiskBackend

open Python Program List

variable {regime : Regime} {nature : Nature} {setting : Setting} {start : World}

/-- The weights as an interrupted restore leaves them. A careful regime also knows
that what is not recorded is not mapped. -/
structure Interrupted (regime : Regime) (setting : Setting) (world : World) : Prop where
  resident : ∀ allocation ∈ setting.weights,
    world.device.released allocation.pointer = false → world.device.mapped allocation.pointer = true
  recorded : ∀ allocation ∈ setting.weights,
    allocation.pointer ∈ world.backend.restoreMapped → world.device.mapped allocation.pointer = true
  unmapped : regime.careless ∨ ∀ allocation ∈ setting.weights,
    world.device.released allocation.pointer = true →
      allocation.pointer ∉ world.backend.restoreMapped →
        world.device.mapped allocation.pointer = false
  live : regime.allowed ∨ ∀ allocation ∈ setting.weights,
    world.device.released allocation.pointer = false →
      allocation.pointer ∉ world.backend.restoreMapped

variable {world : World}

theorem Interrupted.congr {other : World} (interrupted : Interrupted regime setting world)
    (device : other.device = world.device)
    (restoreMapped : other.backend.restoreMapped = world.backend.restoreMapped) :
    Interrupted regime setting other := by
  constructor <;> rw [device]
  · exact interrupted.resident
  · rw [restoreMapped]
    exact interrupted.recorded
  · rw [restoreMapped]
    exact interrupted.unmapped
  · rw [restoreMapped]
    exact interrupted.live

def Ready (world : World) (allocation : Allocation) : Prop :=
  world.device.mapped allocation.pointer = true ∧
    (world.device.released allocation.pointer = true →
      allocation.pointer ∈ world.backend.restoreMapped)

def World.mapWeight (nature : Nature) (world : World) (allocation : Allocation) : World :=
  { world with
    device := world.device.remapped allocation (nature.fresh world.tick)
    backend := { world.backend with
      restoreMapped := world.backend.restoreMapped ++ [allocation.pointer] }
    tick := world.tick + 1 }

variable {allocation : Allocation}

theorem mapWeight_mapped {pointer : Int} (mapped : world.device.mapped pointer = true) :
    (world.mapWeight nature allocation).device.mapped pointer = true := by
  simp [World.mapWeight, Device.remapped, mapped]

theorem Interrupted.mapWeight (interrupted : Interrupted regime setting world)
    (asleep : world.device.released allocation.pointer = true) :
    Interrupted regime setting (world.mapWeight nature allocation) where
  resident other member awake := mapWeight_mapped (interrupted.resident other member awake)
  recorded other member listed := by
    rcases mem_append.mp listed with listed | new
    · exact mapWeight_mapped (interrupted.recorded other member listed)
    · simp [World.mapWeight, Device.remapped, mem_singleton.mp new]
  unmapped := by
    apply interrupted.unmapped.imp_right
    intro unmapped other member released unlisted
    have different : other.pointer ≠ allocation.pointer :=
      fun same => unlisted (by simp [World.mapWeight, same])
    have before : other.pointer ∉ world.backend.restoreMapped :=
      fun listed => unlisted (mem_append_left _ listed)
    simp [World.mapWeight, Device.remapped, different, unmapped other member released before]
  live := by
    apply interrupted.live.imp_right
    intro live other member awake listed
    rcases mem_append.mp listed with listed | new
    · exact live other member awake listed
    · rw [mem_singleton.mp new] at awake
      exact absurd (awake.symm.trans asleep) (by decide)

/-- What mapping a weight does not undo. -/
structure Ready.Kept (setting : Setting) (regime : Regime) (start : World)
    (seen : List Allocation) (world : World) : Prop where
  interrupted : Interrupted regime setting world
  ready : ∀ allocation ∈ seen, Ready world allocation
  written : world.device.written = start.device.written

variable {seen : List Allocation}

theorem mapForRestore_keeps (member : allocation ∈ setting.weights) {released : Bool}
    {restoreMapped : List Int} :
    regime.Keeps (regime.Restoring start)
      (fun world => (Ready.Kept setting regime start seen world ∧
        world.device.released allocation.pointer = released) ∧
        world.backend.restoreMapped = restoreMapped)
      (mapForRestore nature allocation released restoreMapped)
      fun _ => Ready.Kept setting regime start (seen ++ [allocation]) := by
  unfold mapForRestore
  split
  · next asleep =>
      simp only [Bool.and_eq_true, Bool.not_eq_true', decide_eq_false_iff_not] at asleep
      apply Contract.through fun _ world =>
        Ready.Kept setting regime start (seen ++ [allocation]) { world with
          backend := { world.backend with
            restoreMapped := world.backend.restoreMapped ++ [allocation.pointer] } }
      · apply act_keeps
        rintro world frame ⟨⟨kept, rfl⟩, rfl⟩
        by_cases mapped : world.device.mapped allocation.pointer = true
        · have careless : regime.careless := by
            rcases kept.interrupted.unmapped with careless | unmapped
            · exact careless
            · exact absurd (mapped.symm.trans (unmapped _ member asleep.1 asleep.2)) (by decide)
          simp only [mapped, if_true, settles_error]
          exact ⟨(frame.hazard careless _).ticked, regime.careful careless⟩
        · simp only [mapped, if_false, settles_ok, Bool.false_eq_true]
          refine ⟨{ frame with }, kept.interrupted.mapWeight asleep.1, ?_, kept.written⟩
          intro other listed
          rcases mem_append.mp listed with listed | new
          · have ready := kept.ready other listed
            exact ⟨mapWeight_mapped ready.1, fun released => mem_append_left _ (ready.2 released)⟩
          · rw [mem_singleton.mp new]
            exact ⟨by simp [World.ticked, Device.remapped], fun _ => mem_concat_self⟩
      intro _
      apply Contract.assign
      exact fun world frame kept => ⟨{ frame with backend := by rw [frame.backend] }, kept⟩
  · next awake =>
      simp only [Bool.and_eq_true, Bool.not_eq_true', decide_eq_false_iff_not, not_and,
        not_not] at awake
      apply Contract.require
      · rintro refuses world _ ⟨⟨kept, rfl⟩, rfl⟩
        simp only [Bool.not_eq_false', Bool.and_eq_true, Bool.not_eq_true',
          decide_eq_true_eq] at refuses
        rcases kept.interrupted.live with allowed | live
        · exact allowed
        · exact absurd refuses.2 (live _ member refuses.1)
      · rintro _ world _ ⟨⟨kept, rfl⟩, rfl⟩
        refine ⟨kept.interrupted, ?_, kept.written⟩
        intro other listed
        rcases mem_append.mp listed with listed | new
        · exact kept.ready other listed
        · rw [mem_singleton.mp new]
          cases released : world.device.released allocation.pointer with
          | true =>
            have recorded := awake released
            exact ⟨kept.interrupted.recorded _ member recorded, fun _ => recorded⟩
          | false =>
            refine ⟨kept.interrupted.resident _ member released, fun asleep => ?_⟩
            exact absurd (released.symm.trans asleep) (by decide)

def EntryFor [Builtins] (entries : List (Int × Dict)) (allocation : Allocation) (entry : Dict) :
    Prop :=
  findEntry entries allocation.pointer = some entry ∧ entry.int "size" = .ok allocation.size

theorem findEntry_listed {ι : Type} {pointer : ι → Int} {record : ι → Dict} {items : List ι}
    (distinct : (items.map pointer).Nodup) {item : ι} (member : item ∈ items) :
    findEntry (items.map fun item => (pointer item, record item)) (pointer item) =
      some (record item) := by
  rw [findEntry, ← map_reverse, find?_map]
  have found : items.reverse.find? ((fun entry : Int × Dict => decide (entry.1 = pointer item)) ∘
      fun item => (pointer item, record item)) = some item := by
    have unique : ∀ other ∈ items.reverse, pointer other = pointer item → other = item :=
      fun other listed same =>
        inj_on_of_nodup_map distinct (mem_reverse.mp listed) member same
    cases search : items.reverse.find? ((fun entry : Int × Dict =>
        decide (entry.1 = pointer item)) ∘ fun item => (pointer item, record item)) with
    | none =>
      have missed := find?_eq_none.mp search item (mem_reverse.mpr member)
      simp at missed
    | some other =>
      have same : pointer other = pointer item := by simpa using find?_some search
      rw [unique other (mem_of_find?_eq_some search) same]
  rw [found]
  rfl

theorem entries_of_listed [Builtins] {ι : Type} {record : ι → Dict} {allocation : ι → Allocation}
    {items : List ι} {manifest : Dict}
    (listed : (manifest.get "entries").asDicts = some (items.map record))
    (pointers : ∀ item ∈ items, (record item).int "ptr" = .ok (allocation item).pointer)
    (sizes : ∀ item ∈ items, (record item).int "size" = .ok (allocation item).size)
    (live : (items.map allocation).Perm setting.weights) :
    entriesByPointer manifest =
        .ok (items.map fun item => ((allocation item).pointer, record item)) ∧
      ∀ item ∈ items, EntryFor (items.map fun item => ((allocation item).pointer, record item))
        (allocation item) (record item) := by
  constructor
  · rw [entriesByPointer, listed]
    apply Checked.mapEach_map
    intro item member
    rw [pointers item member]
    rfl
  · intro item member
    refine ⟨?_, sizes item member⟩
    have distinct : (items.map fun item => (allocation item).pointer).Nodup := by
      have tidy := setting.weights_tidy.perm (live.symm.map Allocation.range)
      have starts := tidy.starts_nodup
      rw [map_map, map_map] at starts
      exact starts
    exact findEntry_listed distinct member

theorem remapWeightAllocation_keeps [Builtins] {entries : List (Int × Dict)}
    (member : allocation ∈ setting.weights)
    (complete : regime.allowed ∨ ∃ entry, EntryFor entries allocation entry) (ordered : List Dict) :
    regime.Keeps (regime.Restoring start) (fun world => Forall₂ (EntryFor entries) seen ordered ∧
        Ready.Kept setting regime start seen world)
      (remapWeightAllocation nature entries ordered allocation)
      fun next world => Forall₂ (EntryFor entries) (seen ++ [allocation]) next ∧
        Ready.Kept setting regime start (seen ++ [allocation]) world := by
  apply Contract.assuming
  intro listed
  unfold remapWeightAllocation
  cases found : findEntry entries allocation.pointer with
  | none =>
    apply Contract.raise
    intro world _ _
    rcases complete with allowed | ⟨entry, present, _⟩
    · exact allowed
    · exact absurd (found.symm.trans present) (by simp)
  | some entry =>
    have sized : ∀ error, entry.int "size" = .error error → regime.allowed := by
      intro error raised
      rcases complete with allowed | ⟨other, present, size⟩
      · exact allowed
      · cases found.symm.trans present
        cases raised.symm.trans size
    apply Contract.bindExcept fun error raised _ _ _ => sized error raised
    intro size read
    apply Contract.bindRequire
    · intro refuses world _ _
      rcases complete with allowed | ⟨other, present, same⟩
      · exact allowed
      · cases found.symm.trans present
        cases read.symm.trans same
        simp at refuses
    · intro same
      have matching : EntryFor entries allocation entry :=
        ⟨found, by rw [read, of_decide_eq_true same]⟩
      apply Contract.bindRead
      intro released
      apply Contract.bindRead
      intro restoreMapped
      apply Contract.bind (mapForRestore_keeps member)
      intro _
      apply Contract.pure
      exact fun world _ kept => ⟨rel_append listed (.cons matching .nil), kept⟩

/-- Afterwards every weight is mapped, and recorded unless it was live. -/
theorem remapWeightAllocations_keeps [Builtins] {manifest : Dict}
    (readable : regime.allowed ∨ ∃ entries, entriesByPointer manifest = .ok entries)
    (complete : ∀ entries, entriesByPointer manifest = .ok entries →
      ∀ allocation ∈ setting.weights, regime.allowed ∨ ∃ entry, EntryFor entries allocation entry) :
    regime.Keeps (regime.Restoring start) (fun world => Interrupted regime setting world ∧
        world.device.written = start.device.written)
      (remapWeightAllocations nature setting manifest)
      fun ordered world => (∃ entries, entriesByPointer manifest = .ok entries ∧
          Forall₂ (EntryFor entries) setting.weights ordered) ∧
        Ready.Kept setting regime start setting.weights world := by
  apply Contract.bindExcept
  · intro error raised world _ _
    rcases readable with allowed | ⟨entries, read⟩
    · exact allowed
    · cases raised.symm.trans read
  · intro entries read
    apply Contract.consequence (.foldSeen (fun ordered seen world =>
      Forall₂ (EntryFor entries) seen ordered ∧ Ready.Kept setting regime start seen world) _ [])
    · intro world _ starts
      exact ⟨.nil, starts.1, by simp, starts.2⟩
    · exact fun ordered world _ ends => ⟨⟨entries, read, ends.1⟩, ends.2⟩
    · intro ordered seen allocation rest split
      have member : allocation ∈ setting.weights := by simp [split]
      exact remapWeightAllocation_keeps member (complete entries read allocation member) ordered

end Coldsnap.DiskBackend
