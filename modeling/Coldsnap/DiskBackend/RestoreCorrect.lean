import Coldsnap.DiskBackend.CaptureCorrect
import Coldsnap.DiskBackend.Restore

/-! # What a restore writes to device memory

Bytes are copied from files into mapped allocations. The contracts say which
addresses have received the bytes of the snapshot, and how often each of them
was written.
-/

namespace Coldsnap.DiskBackend

open Python Program Intervals Chunks Crc32 List Bytes

variable {regime : Regime} {nature : Nature} {setting : Setting} {start : World}

/-- What a restore leaves alone: the files, the release flags and all but two
fields of the backend. -/
structure Restoring (careless : Prop) (start now : World) : Prop where
  files : now.files = start.files
  released : now.device.released = start.device.released
  hazards : careless ∨ now.device.hazards = start.device.hazards
  backend : now.backend = { start.backend with
    stageCount := now.backend.stageCount
    restoreMapped := now.backend.restoreMapped }

namespace Restoring

variable {careless : Prop} {now next : World}

theorem refl (careless : Prop) (start : World) : Restoring careless start start :=
  ⟨rfl, rfl, .inr rfl, rfl⟩

section

variable (frame : Restoring careless start now)

include frame

theorem field {α : Type} {project : Backend → α}
    (blind : ∀ fields stageCount restoreMapped, project { fields with
      stageCount := stageCount
      restoreMapped := restoreMapped } = project fields) :
    project now.backend = project start.backend := by
  rw [frame.backend]
  exact blind _ _ _

theorem ticked : Restoring careless start now.ticked :=
  { frame with }

theorem hazard (holds : careless) (risk : Hazard) :
    Restoring careless start { now with device := now.device.hazard risk } :=
  { frame with hazards := .inl holds }

end

end Restoring

abbrev Regime.Restoring (regime : Regime) (start : World) : World → Prop :=
  DiskBackend.Restoring regime.careless start

/-! ## Filled memory -/

def Device.fill (base : Device) (target : Int → UInt8) (ranges : List (Int × Int)) : Device :=
  { base with
    memory := fun address =>
      if 0 < coverCount ranges address then target address else base.memory address
    written := base.written ++ ranges }

/-- The ranges written since `base` cover each address as often as `covered`. -/
def Holds (base : Device) (target : Int → UInt8) (covered : List (Int × Int)) (world : World) :
    Prop :=
  ∃ ranges, (∀ point, coverCount ranges point = coverCount covered point) ∧
    world.device = base.fill target ranges

/-- Also the stage shows the bytes at an offset of a storage. -/
abbrev Fetched (base : Device) (target : Int → UInt8) (covered : List (Int × Int))
    (stage : HostStage) (storage : Int → UInt8) (offset : Int) (count : Nat) (world : World) :
    Prop :=
  Holds base target covered world ∧ world.view stage count = slice storage offset count

variable {base : Device} {target : Int → UInt8} {covered : List (Int × Int)}

theorem Device.fill_nil (base : Device) (target : Int → UInt8) : base.fill target [] = base := by
  simp [Device.fill]

variable {world : World}

theorem holds_nil (same : world.device = base) : Holds base target [] world :=
  ⟨[], fun _ => rfl, by rw [same, Device.fill_nil]⟩

theorem Holds.congr {other : List (Int × Int)} (holds : Holds base target covered world)
    (same : ∀ point, coverCount covered point = coverCount other point) :
    Holds base target other world := by
  rcases holds with ⟨ranges, covers, filled⟩
  exact ⟨ranges, fun point => (covers point).trans (same point), filled⟩

theorem Holds.accessible (holds : Holds base target covered world) (pool : List Allocation)
    (pointer count : Int) :
    world.device.accessible pool pointer count = base.accessible pool pointer count := by
  rcases holds with ⟨_, _, filled⟩
  rw [filled]
  rfl

variable {pointer : Int} {count : Nat} {byte : Nat → UInt8}

/-- Writing the bytes of the target adds a range. -/
theorem Device.fill_store (base : Device) (target : Int → UInt8) (ranges : List (Int × Int))
    (bytes : ∀ index < count, byte index = target (pointer + index)) :
    (base.fill target ranges).store pointer count byte =
      base.fill target (ranges ++ [(pointer, pointer + count)]) := by
  have memory : overwrite (base.fill target ranges).memory pointer count byte =
      (base.fill target (ranges ++ [(pointer, pointer + count)])).memory := by
    funext address
    simp only [Device.fill, coverCount_append, coverCount_singleton]
    by_cases inside : pointer ≤ address ∧ address < pointer + count
    · have contains : Contains (pointer, pointer + (count : Int)) address := inside
      rw [overwrite_inside _ _ inside, if_pos contains, if_pos (by omega), bytes _ (by omega)]
      congr 1
      omega
    · have outside : ¬Contains (pointer, pointer + (count : Int)) address := inside
      rw [overwrite_outside _ _ inside, if_neg outside, Nat.add_zero]
  rw [Device.store, memory]
  simp [Device.fill, append_assoc]

theorem Holds.store {next : World} (holds : Holds base target covered world)
    (stored : next.device = world.device.store pointer count byte)
    (bytes : ∀ index < count, byte index = target (pointer + index)) :
    Holds base target (covered ++ [(pointer, pointer + count)]) next := by
  rcases holds with ⟨ranges, covers, filled⟩
  refine ⟨ranges ++ [(pointer, pointer + count)], fun point => ?_, ?_⟩
  · rw [coverCount_append, coverCount_append, covers]
  · rw [stored, filled]
    exact Device.fill_store base target ranges bytes

variable {stage : HostStage} {offset : Int}

theorem World.view_byte {storage : Int → UInt8}
    (viewed : world.view stage count = slice storage offset count) {index : Nat}
    (bound : index < count) : world.stages stage.index index = storage (offset + index) := by
  have short : index < (world.view stage count).length := by simpa using bound
  rw [← world.view_getElem stage short]
  simp only [viewed]
  exact slice_getElem _ _ _

/-! ## Transfers -/

theorem copyFromHost_keeps {size : Nat} (fits : 0 < size ∧ size ≤ stage.capacity)
    (reach : regime.Reaches setting base pointer size) :
    regime.Keeps (regime.Restoring start) (Fetched base target covered stage target pointer size)
      (copyFromHost setting pointer stage size)
      fun _ => Holds base target (covered ++ [(pointer, pointer + size)]) := by
  have valid : validateCopy stage size = .ok () := by
    simp [validateCopy, Checked.require, fits]
  apply Contract.bindReturns valid
  apply act_keeps
  rintro world frame ⟨holds, viewed⟩
  rw [holds.accessible]
  by_cases mapped : base.accessible setting.pool pointer size = true
  · simp only [mapped, if_true, settles_ok]
    exact ⟨{ frame with }, holds.store rfl fun index => World.view_byte viewed⟩
  · have careless := reach.resolve_right mapped
    simp only [mapped, if_false, settles_error, Bool.false_eq_true]
    exact ⟨(frame.hazard careless _).ticked, regime.careful careless⟩

variable {path : Path} {file : File}

/-! ## Native hydration -/

def HydrationExtent.range (extent : HydrationExtent) : Int × Int :=
  (extent.destination, extent.destination + extent.length)

structure Feeds (file : File) (target : Int → UInt8) (extent : HydrationExtent) : Prop where
  length : 0 < extent.length
  offset : 0 ≤ extent.fileOffset
  room : extent.fileOffset + extent.length ≤ file.size
  bytes : slice file.byte extent.fileOffset extent.length.toNat =
    slice target extent.destination extent.length.toNat
  crc : ∀ text ∈ extent.crc,
    text = hex8 (crc32 (slice target extent.destination extent.length.toNat) 0)

def HydrationExtent.part (extent : HydrationExtent) (shift length : Int) : HydrationExtent :=
  ⟨extent.fileOffset + shift, extent.destination + shift, length, none⟩

variable {extent : HydrationExtent}

theorem Feeds.part (feeds : Feeds file target extent) {shift length : Int} (above : 0 ≤ shift)
    (positive : 0 < length) (inside : shift + length ≤ extent.length)
    : Feeds file target (extent.part shift length) where
  length := positive
  offset := by
    have start := feeds.offset
    simp only [HydrationExtent.part]
    omega
  room := by
    have room := feeds.room
    simp only [HydrationExtent.part]
    omega
  bytes := by
    have part := slice_part feeds.bytes
      (show shift.toNat + length.toNat ≤ extent.length.toNat by omega)
    rwa [Int.toNat_of_nonneg above] at part
  crc := by
    intro text member
    cases member

/-- The parts of an extent cover it once. -/
theorem coverCount_splitDirectExtent (point : Int) :
    coverCount ((splitDirectExtent extent).1.map HydrationExtent.range) point +
      coverCount ((splitDirectExtent extent).2.map HydrationExtent.range) point =
        coverCount [extent.range] point := by
  have head : extent.fileOffset ≤ (extent.fileOffset + 4096 - 1) / 4096 * 4096 := le_alignUp _
  simp only [splitDirectExtent, splitBlocks, cutRange]
  split
  · simp
  · simp only [map_append, coverCount_append]
    split <;> split <;>
      simp only [map_cons, map_nil, coverCount_nil, coverCount_singleton, Contains,
        HydrationExtent.range] <;>
      grind

/-- Every part is fed by the file and stays inside the extent. -/
theorem splitDirectExtent_parts (feeds : Feeds file target extent) :
    ∀ piece ∈ (splitDirectExtent extent).1 ++ (splitDirectExtent extent).2,
      Feeds file target piece ∧ ∃ shift, 0 ≤ shift ∧ shift + piece.length ≤ extent.length ∧
        piece.destination = extent.destination + shift := by
  have part : ∀ shift {offset destination length : Int}, offset = extent.fileOffset + shift →
      destination = extent.destination + shift → 0 ≤ shift → 0 < length →
      shift + length ≤ extent.length → Feeds file target ⟨offset, destination, length, none⟩ ∧
        ∃ other, 0 ≤ other ∧ other + length ≤ extent.length ∧
          destination = extent.destination + other := by
    rintro shift _ _ length rfl rfl above positive inside
    exact ⟨feeds.part above positive inside, shift, above, inside, rfl⟩
  intro piece member
  simp only [splitDirectExtent, splitBlocks, cutRange] at member
  split at member
  · cases mem_singleton.mp member
    exact ⟨feeds, 0, le_refl 0, by omega, by omega⟩
  · simp only [mem_append, mem_ite_nil_right, mem_singleton] at member
    rcases member with rfl | ⟨_, rfl⟩ | ⟨_, rfl⟩
    · apply part ((extent.fileOffset + 4096 - 1) / 4096 * 4096 - extent.fileOffset) <;> omega
    · apply part 0 <;> omega
    · apply part ((extent.fileOffset + extent.length) / 4096 * 4096 - extent.fileOffset) <;> omega

variable {extents : List HydrationExtent}

theorem coverCount_splitDirect (point : Int) :
    coverCount ((splitDirectHydrationExtents extents).1.map HydrationExtent.range ++
      (splitDirectHydrationExtents extents).2.map HydrationExtent.range) point =
        coverCount (extents.map HydrationExtent.range) point := by
  induction extents with
  | nil => rfl
  | cons extent extents induction =>
    have first := @coverCount_splitDirectExtent extent point
    simp only [splitDirectHydrationExtents, flatMap_cons, map_append,
      coverCount_append, map_cons] at induction ⊢
    rw [coverCount_cons extent.range]
    omega

theorem hostStage_restoring :
    regime.Keeps (regime.Restoring start) (Holds base target covered) (hostStage setting)
      fun stage world => stage = ⟨0, setting.chunkBytes⟩ ∧ Holds base target covered world := by
  apply Contract.bind (hostStages_keeps (fun _ holds => holds.ticked)
    (fun _ holds => { holds with backend := by rw [World.addStage, holds.backend] })
    (fun _ starts => ⟨starts, starts⟩) 1)
  intro _
  exact .pure fun _ _ starts => ⟨rfl, starts.2⟩

abbrev Regime.Restores (regime : Regime) (start : World) (base : Device) (target : Int → UInt8)
    (covered : List (Int × Int)) (program : Action Unit) (ranges : List (Int × Int)) : Prop :=
  regime.Keeps (regime.Restoring start) (Holds base target covered) program
    fun _ => Holds base target (covered ++ ranges)

abbrev Served (regime : Regime) (setting : Setting) (base : Device) (file : File)
    (target : Int → UInt8) (extents : List HydrationExtent) : Prop :=
  ∀ extent ∈ extents, Feeds file target extent ∧
    regime.Reaches setting base extent.destination extent.length

def HydrationExtent.checksum (target : Int → UInt8) (extent : HydrationExtent) : Json :=
  .str (hex8 (crc32 (slice target extent.destination extent.length.toNat) 0))

/-! ## Reading from a file -/

section

variable (present : start.files path = some file)

include present

theorem preadv_reads {done remaining : Nat} (more : 0 < remaining)
    (room : offset + (done + remaining) ≤ file.size) :
    regime.Keeps (regime.Restoring start) (Fetched base target covered stage file.byte offset done)
      (preadv nature path stage done remaining (offset + done))
      fun moved world => (0 < moved ∧ moved ≤ remaining) ∧
        Fetched base target covered stage file.byte offset (done + moved) world := by
  apply act_keeps
  rintro world frame ⟨holds, viewed⟩
  have here : world.files path = some file := by rw [frame.files, present]
  simp only [here, settles_ok]
  refine ⟨{ frame with }, ?_, holds, ?_⟩
  · simp only [File.readable]
    omega
  · rw [World.view_append, slice_append, ← viewed]
    congr 1
    · apply map_congr_left
      intro index member
      have before := mem_range.mp member
      simp [World.ticked, World.fillStage, before.not_ge]
    · apply map_congr_left
      intro index member
      have within := mem_range.mp member
      simp [World.ticked, World.fillStage, within]

theorem readExactAt_reads (room : offset + count ≤ file.size) :
    regime.Keeps (regime.Restoring start) (Holds base target covered)
      (readExactAt nature path stage count offset)
      fun _ => Fetched base target covered stage file.byte offset count := by
  -- The bytes before `done` are those of the file; each round moves at least one.
  have loop : ∀ rounds done, done ≤ count → count ≤ done + rounds →
      regime.Keeps (regime.Restoring start)
        (Fetched base target covered stage file.byte offset done)
        (readExactFrom nature path stage count offset rounds done)
        fun _ => Fetched base target covered stage file.byte offset count := by
    intro rounds
    induction rounds with
    | zero =>
      intro done below above
      have same : done = count := by omega
      subst same
      exact .pure fun _ _ => id
    | succ rounds induction =>
      intro done below above
      rw [readExactFrom]
      split
      · next more =>
          apply Contract.bind (preadv_reads present (by omega) (by omega))
          intro moved
          apply Contract.assuming
          rintro ⟨progress, bounded⟩
          rw [if_neg (by omega)]
          exact induction (done + moved) (by omega) (by omega)
      · have same : done = count := by omega
        subst same
        exact .pure fun _ _ => id
  apply Contract.starting _ (loop count 0 (Nat.zero_le _) (by omega))
  exact fun world _ starts => ⟨starts, rfl⟩

theorem openForReading_restoring {direct : Bool} :
    regime.Keeps (regime.Restoring start) (Holds base target covered)
      (openForReading nature path direct) fun _ => Holds base target covered := by
  apply ask_keeps fun _ holds => holds.ticked
  intro world holds starts
  rw [holds.files, present]
  exact starts

variable {preverified : Bool} {label : String}

section

variable (feeds : Feeds file target extent)
variable (reach : regime.Reaches setting base extent.destination extent.length)

include feeds reach

theorem hydrateExtent_keeps (covered : List (Int × Int)) :
    regime.Restores start base target covered
      (hydrateExtent setting path preverified extent) [extent.range] := by
  apply act_keeps
  intro world frame holds
  rw [holds.accessible]
  by_cases mapped : base.accessible setting.pool extent.destination extent.length = true
  · have here : world.files path = some file := by rw [frame.files, present]
    have verified : (preverified || extent.crc.all fun text =>
        text == hex8 (crc32 (slice file.byte extent.fileOffset extent.length.toNat) 0)) =
          true := by
      rw [feeds.bytes, Bool.or_eq_true]
      right
      cases recorded : extent.crc with
      | none => rfl
      | some text => simpa using feeds.crc text recorded
    simp only [mapped, if_true, here, feeds.room.not_gt, if_false, verified, settles_ok]
    refine ⟨{ frame with }, ?_⟩
    have length := Int.toNat_of_nonneg (le_of_lt feeds.length)
    have filled : Holds base target
        (covered ++ [(extent.destination, extent.destination + (extent.length.toNat : Nat))])
        { world with device := extent.fill file world.device } :=
      holds.store rfl fun index => eq_of_slice_eq feeds.bytes
    rw [length] at filled
    exact filled
  · have careless := reach.resolve_right mapped
    simp only [mapped, if_false, settles_error, Bool.false_eq_true]
    exact ⟨(frame.hazard careless _).ticked, regime.careful careless⟩

theorem restoreChunk_keeps (capacity : stage.capacity = setting.chunkBytes) {copied : Nat}
    (piece : Chunks.Piece setting.chunkBytes extent.length.toNat copied count) (crc : BitVec 32) :
    regime.Keeps (regime.Restoring start)
      (fun world => crc = (if setting.verifyMode = .inline then
          crc32 (slice target extent.destination copied) 0 else 0) ∧
        Holds base target (covered ++ [(extent.destination, extent.destination + copied)]) world)
      (restoreChunk nature setting path stage extent.destination extent.fileOffset crc
        (copied, count))
      fun next world => next = (if setting.verifyMode = .inline then
          crc32 (slice target extent.destination (copied + count)) 0 else 0) ∧
        Holds base target
          (covered ++ [(extent.destination, extent.destination + (copied + count : Nat))])
          world := by
  have inside := piece.inside
  have room := feeds.room
  have positive := feeds.length
  have part := slice_part feeds.bytes inside
  apply Contract.assuming
  intro fed
  apply Contract.bind (readExactAt_reads present (by omega))
  intro _
  unfold Fetched
  rw [part]
  apply Contract.through fun view world =>
    view = slice target (extent.destination + copied) count ∧
      Fetched base target (covered ++ [(extent.destination, extent.destination + copied)]) stage
        target (extent.destination + copied) count world
  · exact .read fun _ _ starts => ⟨starts.2, starts⟩
  intro view
  apply Contract.assuming
  rintro rfl
  have reachChunk : regime.Reaches setting base (extent.destination + copied) count :=
    reach.imp_right fun whole => accessible_part whole (by omega) (by omega)
  apply Contract.bind (copyFromHost_keeps ⟨piece.positive, capacity ▸ piece.bounded⟩ reachChunk)
  intro _
  apply Contract.pure
  intro world _ holds
  constructor
  · rw [fed]
    split
    · rw [slice_append, crc32_append]
    · rfl
  · apply holds.congr
    intro point
    have split := coverCount_split (show extent.destination ≤ extent.destination + copied by omega)
      (show extent.destination + (copied : Int) ≤ extent.destination + copied + count by omega)
      point
    have sum : extent.destination + ((copied + count : Nat) : Int) =
        extent.destination + copied + count := by omega
    rw [append_assoc, coverCount_append, coverCount_append, coverCount_append, sum]
    omega

theorem restoreExtent_keeps (capacity : stage.capacity = setting.chunkBytes)
    (covered : List (Int × Int)) :
    regime.Restores start base target covered
      (restoreExtent nature setting path stage label (extent, extent.checksum target))
      [extent.range] := by
  have length := Int.toNat_of_nonneg (le_of_lt feeds.length)
  apply Contract.bind (.starting _ (.chunks setting.chunk_aligned.1 _
    (fun crc copied count piece => restoreChunk_keeps present feeds reach capacity piece crc) 0))
  · intro crc
    apply Contract.require
    · rintro refuses world _ ⟨rfl, _⟩
      by_cases mode : setting.verifyMode = .inline <;>
        simp [mode, HydrationExtent.checksum] at refuses
    · rintro _ world _ ⟨_, holds⟩
      rw [length] at holds
      exact holds
  · intro world _ holds
    constructor
    · simp
    · apply holds.congr
      intro point
      rw [coverCount_append, coverCount_empty (by simp), Nat.add_zero]

end

variable {backend : HydrationBackend}
variable (served : Served regime setting base file target extents)

include served

theorem hydrateExtents_keep :
    regime.Restores start base target covered
      (Program.forEach (hydrateExtent setting path preverified) extents)
      (extents.map HydrationExtent.range) := by
  apply Contract.starting (fun _ _ holds => by simpa using holds)
    (.eachSeen (fun seen => Holds base target (covered ++ seen.map HydrationExtent.range)) _)
  intro seen extent rest split
  have member : extent ∈ extents := by simp [split]
  rw [map_append, ← append_assoc]
  exact hydrateExtent_keeps present (served extent member).1 (served extent member).2 _

theorem hydrate_keeps (nonempty : extents ≠ []) (supported : backend = .gds → preverified = true) :
    regime.Restores start base target covered
      (hydrate setting path extents backend preverified) (extents.map HydrationExtent.range) := by
  apply Contract.bindPasses (by simpa using nonempty)
  apply Contract.bindPasses
  · by_cases gds : backend = .gds
    · simp [supported gds]
    · simp [gds]
  · exact hydrateExtents_keep present served

/-- A call which is made only for a non-empty list of extents. -/
theorem hydrateSome_keeps (supported : backend = .gds → preverified = true) :
    regime.Restores start base target covered
      (Program.onlyIf (!extents.isEmpty) (hydrate setting path extents backend preverified))
      (extents.map HydrationExtent.range) := by
  apply Contract.onlyIf
  · intro listed
    exact hydrate_keeps present served (by simpa using listed) supported
  · intro empty world _ holds
    have none : extents = [] := by simpa using empty
    rw [none, map_nil, append_nil]
    exact holds

theorem hydrateExact_keeps (nonempty : extents ≠ [])
    (supported : backend = .gds → setting.verifyMode = .preverified) :
    regime.Restores start base target covered
      (hydrateExact setting path extents backend) (extents.map HydrationExtent.range) := by
  have parts : Served regime setting base file target ((splitDirectHydrationExtents extents).1 ++
      (splitDirectHydrationExtents extents).2) := by
    intro piece member
    have found : ∃ extent ∈ extents,
        piece ∈ (splitDirectExtent extent).1 ++ (splitDirectExtent extent).2 := by
      rcases mem_append.mp member with member | member <;>
        rcases mem_flatMap.mp member with ⟨extent, listed, inside⟩
      · exact ⟨extent, listed, mem_append_left _ inside⟩
      · exact ⟨extent, listed, mem_append_right _ inside⟩
    rcases found with ⟨extent, listed, inside⟩
    rcases splitDirectExtent_parts (served extent listed).1 piece inside with
      ⟨fed, shift, above, within, destination⟩
    refine ⟨fed, (served extent listed).2.imp_right fun whole => ?_⟩
    rw [destination]
    exact accessible_part whole above within
  unfold hydrateExact
  split
  · rcases forall_mem_append.mp parts with ⟨first, second⟩
    apply Contract.bind (hydrateSome_keeps present first fun _ => rfl)
    intro _
    apply Contract.ending _ (hydrateSome_keeps present second fun _ => rfl)
    intro _ world _ holds
    apply holds.congr
    intro point
    rw [append_assoc, coverCount_append _ (_ ++ _), coverCount_splitDirect, coverCount_append]
  · apply hydrate_keeps present served nonempty
    intro gds
    split at gds
    · cases gds
    · exact decide_eq_true (supported gds)

theorem restoreStaged_keeps :
    regime.Restores start base target covered
      (restoreStaged nature setting path label
        (extents.map fun extent => (extent, extent.checksum target)))
      (extents.map HydrationExtent.range) := by
  apply Contract.bindKnown hostStage_restoring
  apply Contract.bind (openForReading_restoring present)
  intro _
  apply Contract.finallyDo
  · apply Contract.consequence (.eachSeen
      (fun seen => Holds base target (covered ++ seen.map fun item => item.1.range)) _)
    · exact fun _ _ holds => by simpa using holds
    · intro _ _ _ holds
      rw [map_map] at holds
      exact holds
    · intro seen item rest split
      have listed : item ∈ extents.map fun extent => (extent, extent.checksum target) := by
        simp [split]
      rcases mem_map.mp listed with ⟨extent, member, rfl⟩
      rw [map_append, ← append_assoc]
      exact restoreExtent_keeps present (served extent member).1 (served extent member).2 rfl _
  · exact fun _ => quiet_keeps (fun _ holds => holds.ticked) fun _ => id
  · exact quiet_keeps (fun _ holds => holds.ticked) fun _ => id

theorem restoreExactExtents_keeps [Builtins] {records : List Dict} (nonempty : extents ≠ [])
    (exact : mapEach hydrationExtent records = .ok extents)
    (checksums : records.map (fun record => record.get "crc32") =
      extents.map (HydrationExtent.checksum target)) :
    regime.Restores start base target covered
      (restoreExactExtents nature setting path records label)
      (extents.map HydrationExtent.range) := by
  apply Contract.bindReturns exact
  cases hydrator : setting.hydrator with
  | some backend =>
    apply hydrateExact_keeps present served nonempty
    rintro rfl
    exact setting.gds_preverified hydrator
  | none =>
    have zipped : extents.zip (records.map fun record => record.get "crc32") =
        extents.map fun extent => (extent, extent.checksum target) := by
      have pairs : (extents.map id).zip (extents.map (HydrationExtent.checksum target)) =
          extents.map fun extent => (extent, extent.checksum target) := zip_map'
      rwa [map_id, ← checksums] at pairs
    simp only [zipped]
    exact restoreStaged_keeps present served

end

end Coldsnap.DiskBackend
