import Coldsnap.DiskBackend.NativeLoadCorrect
import Coldsnap.DiskBackend.RemapCorrect

/-! # The split-native round trip

What `_write_recovery_manifest` exported is accepted by `_load_manifest` on the
same process, and `_restore_split_native` brings every weight byte back.
-/

namespace Coldsnap.DiskBackend

open Python Program Intervals Crc32 List Checked Regime Hashing

variable {regime : Regime} {nature : Nature} {setting : Setting} {start : World}

/-! ## Extents as the restore reads them -/

theorem hexPairs_of_hex : ∀ {characters : List Char}, characters.length % 2 = 0 →
    (∀ character ∈ characters, character ∈ "0123456789abcdef".toList) →
    hexPairs characters = true
  | [], _, _ => rfl
  | [_], even, _ => absurd even (by simp)
  | first :: second :: rest, even, hex => by
    have firstHex := hex first mem_cons_self
    have secondHex := hex second (mem_cons_of_mem _ mem_cons_self)
    have visible : ∀ character ∈ "0123456789abcdef".toList, character.isWhitespace = false := by
      have all : ("0123456789abcdef".toList.all fun character =>
          !character.isWhitespace) = true := by decide
      intro character member
      exact Bool.not_eq_true' _ |>.mp (all_eq_true.mp all character member)
    have others : hexPairs rest = true := by
      apply hexPairs_of_hex
      · simp only [length_cons] at even
        omega
      · intro character member
        exact hex character (mem_cons_of_mem _ (mem_cons_of_mem _ member))
    rw [hexPairs, visible first firstHex, others]
    simp only [Bool.false_eq_true, if_false, decide_eq_true firstHex, decide_eq_true secondHex,
      Bool.and_self]

theorem HydrationExtent.check_ok {extent : HydrationExtent} (offset : 0 ≤ extent.fileOffset)
    (destination : 0 < extent.destination) (length : 0 < extent.length)
    (digits : (extent.crc.all fun text => text.length == 8 && hexPairs text.toList) = true) :
    extent.check = .ok extent := by
  have bounds : (!(decide (extent.fileOffset < 0) || decide (extent.destination ≤ 0) ||
      decide (extent.length ≤ 0))) = true := by
    simp only [Bool.not_eq_true', Bool.or_eq_false_iff, decide_eq_false_iff_not]
    omega
  unfold HydrationExtent.check
  rw [bounds, digits]
  rfl

def Extent.hydration (memory : Int → UInt8) (extent : Extent) : HydrationExtent :=
  ⟨extent.offset, extent.ptr, extent.size, some (hex8 (Crc32.crc32 (extent.bytes memory) 0))⟩

section

variable {memory : Int → UInt8} {extent : Extent}

theorem hydrationExtent_toDict [Builtins]
    (recorded : extent.crc32 = some (hex8 (Crc32.crc32 (extent.bytes memory) 0)))
    (offset : 0 ≤ extent.offset) (pointer : 0 < extent.ptr) (size : 0 < extent.size) :
    hydrationExtent extent.toDict = .ok (extent.hydration memory) := by
  have crc : extent.toDict.item "crc32" =
      .ok (.str (hex8 (Crc32.crc32 (extent.bytes memory) 0))) := by
    rw [Dict.item, Extent.toDict_lookup_crc32, recorded]
    rfl
  have pairs : hexPairs (hex8 (Crc32.crc32 (extent.bytes memory) 0)).toList = true := by
    apply hexPairs_of_hex _ (hex8_hex _)
    rw [String.length_toList, hex8_length]
  simp only [hydrationExtent, Extent.toDict_int_offset, Extent.toDict_int_ptr,
    Extent.toDict_int_size, crc, ok_bind]
  exact HydrationExtent.check_ok offset pointer size (by simpa using pairs)

/-- A file which the padded writer left feeds every extent recorded in it. -/
theorem feeds_packed {stored : List Extent} {file : File}
    (positive : ∀ extent ∈ stored, extent.Positive) (size : file.size = packedExtentBytes stored)
    (bytes : Bytes.slice file.byte 0 (packed memory stored).length = packed memory stored)
    (member : extent ∈ (assignOffsets 0 stored).map (Extent.recorded memory)) :
    Feeds file memory (extent.hydration memory) := by
  rcases mem_map.mp member with ⟨placed, listed, rfl⟩
  have places := placed_assignOffsets positive
  rw [← packed_assignOffsets memory 0 stored] at bytes
  rcases places.slice bytes listed with ⟨slice, above, room⟩
  rw [packedExtentBytes_assignOffsets, ← size] at room
  refine ⟨places.positive placed listed, above, room, slice, ?_⟩
  intro text same
  cases same
  rfl

variable {base : Device} {covered : List (Int × Int)}

/-- Extents of a packed file are restored to their own places. -/
theorem restorePacked_keeps [Builtins] {path : Path}
    {stored listed : List Extent} {label : String} (positive : ∀ extent ∈ stored, extent.Positive)
    (written : Written path (packedExtentBytes stored) (packed memory stored) start)
    (nonempty : listed ≠ []) (recorded : ∀ extent ∈ listed,
      extent ∈ (assignOffsets 0 stored).map (Extent.recorded memory))
    (inside : ∀ extent ∈ listed, extent.Inside setting.ordered)
    (mapped : base.holdsWeights setting) :
    regime.Restores start base memory covered
      (restoreExactExtents nature setting path (listed.map Extent.toDict) label)
      (listed.map Extent.range) := by
  rcases written with ⟨file, present, size, bytes⟩
  have feeds : ∀ extent ∈ listed, Feeds file memory (extent.hydration memory) :=
    fun extent member => feeds_packed positive size bytes (recorded extent member)
  have checksum : ∀ extent ∈ listed,
      extent.crc32 = some (hex8 (Crc32.crc32 (extent.bytes memory) 0)) := by
    intro extent member
    rcases mem_map.mp (recorded extent member) with ⟨placed, _, rfl⟩
    rfl
  have exact : mapEach hydrationExtent (listed.map Extent.toDict) =
      .ok (listed.map (Extent.hydration memory)) := by
    apply mapEach_map
    intro extent member
    have pointer : 0 < extent.ptr := by
      rcases inside extent member with ⟨allocation, held, _, starts, _⟩
      have above : 0 < allocation.pointer := (setting.ordered_tidy.1 _ (mem_map_of_mem held)).1
      omega
    exact hydrationExtent_toDict (checksum extent member) (feeds extent member).offset pointer
      (feeds extent member).length
  have checksums : (listed.map Extent.toDict).map (fun record => record.get "crc32") =
      (listed.map (Extent.hydration memory)).map (HydrationExtent.checksum memory) := by
    rw [map_map, map_map]
    apply map_congr_left
    intro extent member
    exact Extent.toDict_get_crc32 (checksum extent member)
  have ranges : listed.map Extent.range =
      (listed.map (Extent.hydration memory)).map HydrationExtent.range := by
    rw [map_map]
    rfl
  rw [ranges]
  refine restoreExactExtents_keeps present ?_ (by simpa using nonempty) exact checksums
  exact forall_mem_map.mpr fun extent member =>
    ⟨feeds extent member, .inr ((inside extent member).accessible mapped)⟩

end

/-! ## The restore -/

namespace NativeExport

variable [Hashing] {memory : Int → UInt8} {state : Json} {world : World}
variable {plan : RecoveryPlan} {nativeResidual : List Extent} {written : WrittenBlob}
variable {pack : WrittenBlob × Stat} {generation : String}

theorem coversOnce (left : NativeExport setting memory state plan written pack generation world)
    (exported : ExportPlan setting plan nativeResidual) :
    CoversOnce setting.weights
      (pack.1.extents.map Extent.range ++ (residualExtents plan written).map Extent.range) := by
  let placements := (pack.1.extents ++ residualExtents plan written).map Extent.placement
  have owned : ∀ placement ∈ placements,
      placement.owner ∈ (setting.ordered.map Allocation.range).map Prod.fst := by
    rw [forall_mem_map]
    intro extent listed
    rcases ((left.listed exported).inside extent listed).2 with ⟨allocation, held, owner, _⟩
    rw [map_map]
    exact mem_map.mpr ⟨allocation, held, owner.symm⟩
  have tiled := coverCount_allTiled setting.ordered_tidy.starts_nodup owned
    (left.allTiled_exported exported)
  have ranges : placements.map Placement.range =
      pack.1.extents.map Extent.range ++ (residualExtents plan written).map Extent.range := by
    rw [map_map, map_append]
    rfl
  intro point
  rw [← ranges, tiled, Setting.ordered, coverCount_perm ((sortedOn_perm _ _).map _)]
  exact coversOnce_of_apart setting.weights_tidy.2 point

theorem restores [Builtins]
    (left : NativeExport setting memory state plan written pack generation start)
    (exported : ExportPlan setting plan nativeResidual)
    (model : start.backend.blobPath = .snapshot modelPayloadName)
    (residual : start.backend.residualBlobPath = .snapshot "weights.blob") :
    calm.Keeps (calm.Restoring start) (fun world => Interrupted calm setting world ∧
        world.device.written = start.device.written)
      (restoreSplitNative nature setting (manifest setting state plan written pack generation))
      fun _ world => ∃ base : Device, base.written = start.device.written ∧
        Holds base memory (pack.1.extents.map Extent.range ++
          (residualExtents plan written).map Extent.range) world := by
  let record := manifest setting state plan written pack generation
  have listed : (record.get "entries").asDicts = some (setting.ordered.map entryFields) := by
    have entries : record.get "entries" = .arr ((setting.ordered.map entryFields).map .obj) := by
      rw [← entryRecords, ← exported.allocations]
      rfl
    rw [entries, Json.asDicts_map]
  have live : (setting.ordered.map id).Perm setting.weights := by
    rw [map_id]
    exact sortedOn_perm _ _
  have entries := entries_of_listed listed (fun _ _ => rfl) (fun _ _ => rfl) live
  have modelList : manifestExtents record "model_weight_extents" =
      .ok (pack.1.extents.map Extent.toDict) := by
    have extents : record.get "model_weight_extents" =
        .arr ((pack.1.extents.map Extent.toDict).map .obj) := by
      rw [map_map]
      rfl
    rw [manifestExtents, extents, Json.asDicts_map]
  have residualList : manifestExtents record "residual_extents" =
      .ok ((residualExtents plan written).map Extent.toDict) := by
    have extents : record.get "residual_extents" =
        .arr (((residualExtents plan written).map Extent.toDict).map .obj) := by
      rw [map_map]
      rfl
    rw [manifestExtents, extents, Json.asDicts_map]
  have inside := (left.listed exported).inside
  apply Contract.bind (remapWeightAllocations_keeps (.inr ⟨_, entries.1⟩) fun other same => by
    cases entries.1.symm.trans same
    exact fun allocation member =>
      .inr ⟨_, entries.2 allocation (Setting.mem_ordered.mpr member)⟩)
  intro ordered
  apply Contract.bindReturns modelList
  apply bindBackend fun _ holds _ => (holds.field fun _ _ _ => rfl).trans model
  have fixes : ∀ world, calm.Restoring start world →
      Ready.Kept setting calm start setting.weights world →
      ∃ base : Device, (base.holdsWeights setting ∧ base.written = start.device.written) ∧
        Holds base memory [] world := by
    intro world _ kept
    exact ⟨world.device, ⟨fun allocation member => (kept.ready allocation member).1,
      kept.written⟩, holds_nil rfl⟩
  apply Contract.starting fun world frame kept => fixes world frame kept.2
  apply Contract.fixing
  intro base
  apply Contract.assuming
  rintro ⟨mapped, fresh⟩
  apply Contract.bind (restorePacked_keeps (model_positive exported) left.model.written
    (left.model_nonempty exported) _ _ mapped)
  · intro _
    apply Contract.bindReturns residualList
    apply bindBackend fun _ holds _ => (holds.field fun _ _ _ => rfl).trans residual
    apply Contract.ending fun _ _ _ holds => ⟨base, fresh, holds⟩
    apply restorePacked_keeps (stored_positive exported) left.residual left.nonempty _ _ mapped
    · intro extent member
      rw [← left.blob.recorded]
      exact left.residual_placements.2.subset member
    · exact fun extent member => (inside extent (mem_append_right _ member)).2
  · intro extent member
    rw [← left.model.blob.recorded]
    exact member
  · exact fun extent member => (inside extent (mem_append_left _ member)).2

end NativeExport

/-! ## Capture, load and restore -/

/-- A state of the same process some time after an export: the controller has
selected the native payload and left the exported files alone, and the weights
are asleep, resident, or mapped by an interrupted restore. -/
structure SleepsAfter (setting : Setting) (finished later : World) : Prop where
  files : ∀ path, path ≠ .snapshot activationProviderName → later.files path = finished.files path
  activated : ActivatesNative later
  manifest : later.backend.liveNativeManifest = finished.backend.liveNativeManifest
  weights : Interrupted calm setting later

variable {allocations : List Allocation} {target : Int → UInt8}

section

variable {world : World} (holds : Holds base target covered world)
  (covers : CoversOnce allocations covered)

include holds covers

theorem Holds.memory : ∀ allocation ∈ allocations, ∀ address, Contains allocation.range address →
      world.device.memory address = target address := by
  rcases holds with ⟨ranges, same, filled⟩
  intro allocation member address inside
  have once : coverCount ranges address = 1 := by
    rw [same, covers, if_pos ⟨allocation, member, inside⟩]
  rw [filled, Device.fill]
  simp [once]

theorem Holds.written :
    ∃ ranges, world.device.written = base.written ++ ranges ∧ CoversOnce allocations ranges := by
  rcases holds with ⟨ranges, same, filled⟩
  refine ⟨ranges, ?_, fun point => (same point).trans (covers point)⟩
  rw [filled, Device.fill]

end

/-- Under any failures of the capture which let it return, the exported manifest is
accepted, and the restore writes every weight byte once, with its captured value. -/
theorem writeRecoveryManifest_roundTrip [Builtins] [Hashing] (captureNature nature : Nature)
    (setting : Setting) (start : World) (schedule : List (Label → Option PyError))
    (enabled : setting.modelPayloadCaptureEnabled = true)
    (pending : start.backend.modelPayloadExported = false)
    (unactivated : start.backend.Unactivated) {record : Dict}
    (returned : (writeRecoveryManifest captureNature setting start schedule).result = .ok record)
    (later : World) (sleeps : SleepsAfter setting
      (writeRecoveryManifest captureNature setting start schedule).state later) :
    ∃ manifest, (loadManifest nature setting .plain later []).result = .ok manifest ∧
      (manifest.get "weight_source").equal (.str weightSourceSplitNative) = true ∧
      let restored := restoreSplitNative nature setting manifest
        (loadManifest nature setting .plain later []).state []
      restored.result = .ok () ∧
      (∀ allocation ∈ setting.weights, ∀ address, Contains allocation.range address →
        restored.state.device.memory address = start.device.memory address) ∧
      ∃ ranges, restored.state.device.written = later.device.written ++ ranges ∧
        CoversOnce setting.weights ranges := by
  have captures : wild.Within SnapshotFile start _
      (writeRecoveryManifest captureNature setting) _ :=
    writeRecoveryManifest_exports trivial enabled unactivated (.inl trivial)
  rcases captures.returned (.refl _ _ _) pending (fun _ _ => trivial) returned with
    ⟨frame, plan, nativeResidual, exported, written, pack, generation, finished⟩
  have left := finished.of_files (sleeps.files _ (by decide)) (sleeps.files _ (by decide))
    (sleeps.files _ (by decide))
  have uncached : later.backend.liveNativeManifest = none := by
    have kept : (writeRecoveryManifest captureNature setting start
        schedule).state.backend.liveNativeManifest = start.backend.liveNativeManifest :=
      frame.field fun _ _ _ => rfl
    exact sleeps.manifest.trans (kept.trans unactivated.manifest)
  rcases (left.loads exported sleeps.activated uncached).returns id (Unmoved.refl later) trivial
    with ⟨manifest, accepted, _, rfl, loaded⟩
  have here := left.of_files (congrFun loaded.unmoved.files _) (congrFun loaded.unmoved.files _)
    (congrFun loaded.unmoved.files _)
  have interrupted := sleeps.weights.congr loaded.unmoved.device loaded.unmoved.restoreMapped
  rcases (here.restores exported loaded.selects.blobPath loaded.residual).returns id
    (Restoring.refl _ _) ⟨interrupted, rfl⟩ with ⟨_, restored, _, base, fresh, holds⟩
  refine ⟨_, accepted, rfl, restored, ?_, ?_⟩
  · exact holds.memory (left.coversOnce exported)
  · rw [← loaded.unmoved.device, ← fresh]
    exact holds.written (left.coversOnce exported)

/-! ### An instance -/

namespace NativeRoundTrip

def worker : Setting :=
  { Setting.oneWeight 4096 16 page_positive (by decide) with modelPayloadCaptureEnabled := true }

def outside : Nature := { Nature.plain with transfer := fun _ => 65536 }

def semanticId : String := "00112233445566778899aabbccddeeff00112233445566778899aabbccddeeff"

def bindings : Bindings where
  modelWeightRanges := [(4098, 3)]
  modelWeightSemantics := [⟨4098, 3, semanticId⟩]
  nativeModelPayloadSemantics := [⟨4098, 3, semanticId⟩]

def before : World :=
  World.initial { Backend.initial weightSourceSafetensors false with bindings := bindings }
    (fun address => UInt8.ofNat (address - 4096).toNat) fun _ => none

def capture : Run Label World PyError Dict :=
  @writeRecoveryManifest outside worker standard before []

def later (finished : World) : World :=
  { finished with
    files := fun path =>
      if path = .snapshot activationProviderName then
        some ⟨6, fun _ => 0, .text "native", 0, 0, 0, 0⟩
      else finished.files path
    device := ⟨fun _ => false, fun _ => true, fun _ => 0, [], []⟩
    backend := { finished.backend with restoreMapped := [] } }

theorem sleeps (finished : World) : SleepsAfter worker finished (later finished) where
  files path other := by simp [later, other]
  activated := ⟨_, rfl, rfl⟩
  manifest := rfl
  weights := {
    resident := fun _ _ awake => absurd awake (by simp [later])
    recorded := fun _ _ listed => absurd listed (by simp [later])
    unmapped := .inr fun _ _ _ _ => rfl
    live := .inr fun _ _ awake => absurd awake (by simp [later]) }

end NativeRoundTrip

theorem writeRecoveryManifest_roundTrip_example :
    let _ := Builtins.decimal
    ∃ manifest, (loadManifest NativeRoundTrip.outside NativeRoundTrip.worker .plain
        (NativeRoundTrip.later NativeRoundTrip.capture.state) []).result = .ok manifest ∧
      ∀ address, 4096 ≤ address → address < 4112 →
        (restoreSplitNative NativeRoundTrip.outside NativeRoundTrip.worker manifest
          (loadManifest NativeRoundTrip.outside NativeRoundTrip.worker .plain
            (NativeRoundTrip.later NativeRoundTrip.capture.state) []).state
          []).state.device.memory address = UInt8.ofNat (address - 4096).toNat := by
  have returns : NativeRoundTrip.capture.result.isOk = true := by decide +kernel
  rcases exists_of_isOk returns with ⟨record, returned⟩
  rcases @writeRecoveryManifest_roundTrip Builtins.decimal standard
    NativeRoundTrip.outside NativeRoundTrip.outside NativeRoundTrip.worker NativeRoundTrip.before []
    rfl rfl ⟨rfl, rfl, rfl⟩ record returned _
    (NativeRoundTrip.sleeps NativeRoundTrip.capture.state) with
    ⟨manifest, accepted, _, _, memory, _⟩
  refine ⟨manifest, accepted, ?_⟩
  intro address above below
  exact memory ⟨4096, 16, "weights"⟩ (by decide) address ⟨above, below⟩

/-- Whatever is raised on the way, at no moment of a capture does the device or a file outside
the snapshot differ from what it was, and only mapped memory is read. -/
theorem writeRecoveryManifest_confined [Hashing] (nature : Nature) {setting : Setting}
    {start : World} (enabled : setting.modelPayloadCaptureEnabled = true)
    (unactivated : start.backend.Unactivated) (pending : start.backend.modelPayloadExported = false)
    (mapped : start.device.holdsWeights setting) (schedule : List (Label → Option PyError)) :
    ∀ passed ∈ (writeRecoveryManifest nature setting start schedule).visited,
      passed.device = start.device ∧
        ∀ path, ¬SnapshotFile path → passed.files path = start.files path := by
  intro passed visited
  have captures : (Regime.guarded fun _ => True).Within SnapshotFile start _
      (writeRecoveryManifest nature setting) _ :=
    writeRecoveryManifest_exports trivial enabled unactivated (.inr mapped)
  have frame :=
    (captures start schedule ⟨.refl _ _ _, pending⟩ fun _ _ => trivial).2.1 passed visited
  have device := frame.device
  rw [frame.hazards.resolve_left id] at device
  exact ⟨device, frame.files⟩

theorem writeRecoveryManifest_confined_example :
    NativeRoundTrip.capture.result.isOk = true ∧
      ∀ passed ∈ NativeRoundTrip.capture.visited,
        passed.device = NativeRoundTrip.before.device := by
  refine ⟨by decide +kernel, fun passed visited => ?_⟩
  exact (@writeRecoveryManifest_confined standard NativeRoundTrip.outside NativeRoundTrip.worker
    NativeRoundTrip.before rfl ⟨rfl, rfl, rfl⟩ rfl (fun _ _ => rfl) [] passed visited).1

end Coldsnap.DiskBackend
