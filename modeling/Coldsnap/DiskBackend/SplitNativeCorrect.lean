import Coldsnap.DiskBackend.RecoveryCorrect

/-! # The loader accepts what an export wrote

The checks of the split-native format pass on the manifest which the native
export recorded.
-/

namespace Coldsnap.DiskBackend

open Python Intervals Crc32 List Checked Dict

/-! ## Reading an extent back -/

namespace Extent

variable (extent : Extent)

theorem toDict_int_ptr [Builtins] : extent.toDict.int "ptr" = .ok extent.ptr := by
  rcases extent with ⟨_, _, _, _ | _, _ | _, _, _ | _⟩ <;> rfl

theorem toDict_int_size [Builtins] : extent.toDict.int "size" = .ok extent.size := by
  rcases extent with ⟨_, _, _, _ | _, _ | _, _, _ | _⟩ <;> rfl

theorem toDict_int_owner [Builtins] :
    extent.toDict.int "allocation_ptr" = .ok extent.allocationPtr := by
  rcases extent with ⟨_, _, _, _ | _, _ | _, _, _ | _⟩ <;> rfl

theorem toDict_int_offset [Builtins] : extent.toDict.int "offset" = .ok extent.offset := by
  rcases extent with ⟨_, _, _, _ | _, _ | _, _, _ | _⟩ <;> rfl

theorem toDict_lookup_sha256 : extent.toDict.lookup "sha256" = extent.sha256.map .str := by
  rcases extent with ⟨_, _, _, _ | _, _ | _, _, _ | _⟩ <;> rfl

theorem toDict_lookup_crc32 : extent.toDict.lookup "crc32" = extent.crc32.map .str := by
  rcases extent with ⟨_, _, _, _ | _, _ | _, _, _ | _⟩ <;> rfl

variable {extent : Extent} {text : String}

theorem toDict_get_crc32 (found : extent.crc32 = some text) :
    extent.toDict.get "crc32" = .str text := by
  rw [Dict.get, toDict_lookup_crc32, found]
  rfl

theorem toDict_get_sha256 (found : extent.sha256 = some text) :
    extent.toDict.get "sha256" = .str text := by
  rw [Dict.get, toDict_lookup_sha256, found]
  rfl

theorem toDict_item_sha256 (found : extent.sha256 = some text) :
    extent.toDict.item "sha256" = .ok (.str text) := by
  rw [item, toDict_lookup_sha256, found]
  rfl

def Checksummed (extent : Extent) : Prop := ∃ crc : BitVec 32, extent.crc32 = some (hex8 crc)

def Hashed [Hashing] (extent : Extent) : Prop :=
  ∃ bytes, extent.sha256 = some (Hashing.sha256 bytes)

end Extent

theorem isHex_hex8 (crc : BitVec 32) : isHex (hex8 crc) = true := by
  apply all_eq_true.mpr
  intro character member
  exact decide_eq_true (hex8_hex crc character member)

theorem extentList_toDict {extents : List Extent} (nonempty : extents ≠ []) :
    extentList (.arr (extents.map fun extent => .obj extent.toDict)) =
      some (extents.map Extent.toDict) := by
  have listed : extents.map (fun extent => Json.obj extent.toDict) =
      (extents.map Extent.toDict).map .obj := by
    rw [map_map]
    rfl
  rw [listed, extentList_map]
  simpa using nonempty

theorem sumSizes_toDict [Builtins] (extents : List Extent) :
    sumSizes (extents.map Extent.toDict) = .ok (logicalBytes extents) := by
  have sizes : mapEach (fun extent : Dict => extent.int "size")
      (extents.map Extent.toDict) = .ok (extents.map Extent.size) :=
    mapEach_map fun extent _ => extent.toDict_int_size
  simp only [sumSizes, sizes, ok_bind]
  rfl

/-! ## The files -/

variable {extents : List Extent} (memory : Int → UInt8)

theorem checkModelFile_assigned [Builtins] [Hashing] (hashed : ∀ extent ∈ extents, extent.Hashed) :
    checkModelFile (((assignOffsets 0 extents).map (Extent.recorded memory)).map Extent.toDict)
      (packedExtentBytes extents) = .ok () := by
  have walked : ∀ base, foldEach checkModelExtent base
      (((assignOffsets base extents).map (Extent.recorded memory)).map Extent.toDict) =
        .ok (base + packedExtentBytes extents) := by
    induction extents with
    | nil =>
      simp [assignOffsets, packedExtentBytes]
    | cons extent extents induction =>
      intro base
      rcases hashed extent mem_cons_self with ⟨bytes, digest⟩
      let placed : Extent := Extent.recorded memory { extent with offset := base }
      have sha : placed.toDict.get "sha256" = .str (Hashing.sha256 bytes) :=
        Extent.toDict_get_sha256 digest
      have crc : placed.toDict.get "crc32" =
          .str (hex8 (Crc32.crc32 (extent.bytes memory) 0)) := Extent.toDict_get_crc32 rfl
      have first : checkModelExtent base placed.toDict = .ok (base + alignUp extent.size) := by
        have offset : placed.toDict.int "offset" = .ok base := placed.toDict_int_offset
        have size : placed.toDict.int "size" = .ok extent.size := placed.toDict_int_size
        simp [checkModelExtent, offset, size, sha, crc, isCrc, Hashing.sha256_length,
          require, bind, Except.bind, pure, Except.pure]
      rw [assignOffsets, map_cons, map_cons, foldEach_cons]
      rw [first]
      have rest := induction (fun other member => hashed other (mem_cons_of_mem _ member))
        (base + alignUp extent.size)
      rw [packedExtentBytes_cons, ← add_assoc, ← rest]
      rfl
  have done := walked 0
  rw [zero_add] at done
  simp only [checkModelFile, done, ok_bind, decide_true, require_true]

/-- Padded extents one after another, possibly with room between them. -/
def PaddedRun (fileBytes : Int) : Int → List Extent → Prop
  | _, [] => True
  | cursor, extent :: extents =>
    (0 < extent.size ∧ cursor ≤ extent.offset ∧ extent.offset % 4096 = 0 ∧
      extent.offset + alignUp extent.size ≤ fileBytes ∧ extent.Checksummed) ∧
      PaddedRun fileBytes (extent.offset + alignUp extent.size) extents

namespace PaddedRun

variable {fileBytes : Int}

theorem mono {cursor earlier : Int} (ordered : earlier ≤ cursor)
    (run : PaddedRun fileBytes cursor extents) : PaddedRun fileBytes earlier extents := by
  cases extents with
  | nil => trivial
  | cons extent extents =>
    exact ⟨⟨run.1.1, le_trans ordered run.1.2.1, run.1.2.2⟩, run.2⟩

theorem sublist {chosen : List Extent} (sub : chosen.Sublist extents) :
    ∀ {cursor : Int}, PaddedRun fileBytes cursor extents → PaddedRun fileBytes cursor chosen := by
  induction sub with
  | slnil => exact id
  | @cons rest chosen extent sub induction =>
    intro cursor run
    have grows := le_alignUp extent.size
    apply mono _ (induction run.2)
    have bounds := run.1
    omega
  | cons_cons extent sub induction =>
    intro cursor run
    exact ⟨run.1, induction run.2⟩

theorem offsets_sorted :
    ∀ {cursor : Int}, PaddedRun fileBytes cursor extents →
      (∀ extent ∈ extents, cursor ≤ extent.offset) ∧
        extents.Pairwise fun left right => left.offset ≤ right.offset := by
  induction extents with
  | nil => exact fun _ => ⟨fun _ member => (not_mem_nil member).elim, .nil⟩
  | cons extent extents induction =>
    intro cursor run
    rcases induction run.2 with ⟨later, sorted⟩
    have grows := le_alignUp extent.size
    have bounds := run.1
    constructor
    · refine forall_mem_cons.mpr ⟨bounds.2.1, fun other member => ?_⟩
      have after := later other member
      omega
    · apply pairwise_cons.mpr ⟨fun other member => ?_, sorted⟩
      have after := later other member
      omega

theorem fileBytes_pos (run : PaddedRun fileBytes 0 extents) (nonempty : extents ≠ []) :
    0 < fileBytes := by
  cases extents with
  | nil => exact absurd rfl nonempty
  | cons extent extents =>
    have bounds := run.1
    have grows := le_alignUp extent.size
    omega

/-- The loop of the residual check accepts a padded run. -/
theorem checks [Builtins] :
    ∀ {cursor : Int}, PaddedRun fileBytes cursor extents → ∃ stop,
      foldEach (checkResidualExtent true fileBytes) cursor
        (extents.map Extent.toDict) = .ok stop := by
  induction extents with
  | nil => exact fun {cursor} _ => ⟨cursor, rfl⟩
  | cons extent extents induction =>
    intro cursor run
    rcases run with ⟨⟨size, starts, aligned, room, crc, recorded⟩, rest⟩
    rcases induction rest with ⟨stop, walked⟩
    have paged : (extent.offset % 4096 != 0) = false := by rw [aligned, bne_self_eq_false]
    have checked : checkResidualExtent true fileBytes cursor extent.toDict =
        .ok (extent.offset + alignUp extent.size) := by
      simp only [checkResidualExtent, extent.toDict_int_offset, extent.toDict_int_size, ok_bind,
        paged]
      simp [Extent.toDict_get_crc32 recorded, isCrc, Json.asString, isHex_hex8, require, size,
        starts, room.not_gt]
    refine ⟨stop, ?_⟩
    rw [map_cons, foldEach_cons, checked, ok_bind]
    exact walked

theorem validates [Builtins] (run : PaddedRun fileBytes 0 extents) (positive : 0 < fileBytes)
    (aligned : fileBytes % 4096 = 0) :
    validateResidualFileExtents (extents.map Extent.toDict) fileBytes
      (.str residualLayoutShared) = .ok () := by
  rcases run.checks with ⟨stop, walked⟩
  have sorted : sortedBy (fun extent : Dict => extent.int "offset")
      (extents.map Extent.toDict) = .ok (extents.map Extent.toDict) := by
    rw [sortedBy_map_ok fun extent _ => extent.toDict_int_offset,
      sortedOn_eq_self run.offsets_sorted.2]
  have shared : (Json.str residualLayoutShared).equal (.str residualLayoutShared) = true := by
    simp
  simp only [validateResidualFileExtents, shared, Bool.or_true, require_true,
    ok_bind, sorted, walked]
  simp [require, positive.not_ge, aligned]

end PaddedRun

theorem packedExtentBytes_mod (extents : List Extent) : packedExtentBytes extents % 4096 = 0 := by
  induction extents with
  | nil => rfl
  | cons extent extents induction =>
    have first := alignUp_mod extent.size
    rw [packedExtentBytes_cons]
    omega

/-- The writer leaves a padded run. -/
theorem paddedRun_assigned (positive : ∀ extent ∈ extents, extent.Positive) :
    ∀ {base : Int}, base % 4096 = 0 →
      PaddedRun (base + packedExtentBytes extents) base
        ((assignOffsets base extents).map (Extent.recorded memory)) := by
  induction extents with
  | nil => exact fun _ => trivial
  | cons extent extents induction =>
    intro base aligned
    have restPositive : ∀ other ∈ extents, other.Positive :=
      fun other member => positive other (mem_cons_of_mem _ member)
    have later := packedExtentBytes_nonneg restPositive
    have alignedNext : (base + alignUp extent.size) % 4096 = 0 := by
      have multiple := alignUp_mod extent.size
      omega
    have rest := induction restPositive alignedNext
    rw [packedExtentBytes_cons, ← add_assoc]
    refine ⟨⟨positive extent mem_cons_self, le_refl base, aligned, ?_, _, rfl⟩, rest⟩
    change base + alignUp extent.size ≤ base + alignUp extent.size + packedExtentBytes extents
    omega

/-! ## The referenced pieces -/

/-- Extents which the writer has completed stand for the same ranges. -/
theorem references_written {pieces : List SharedPiece} {written : List Extent}
    (same : Forall₂ (fun piece extent => extent.placement = piece.extent.placement) pieces
      written) (view : Nat) :
    (references (writtenPieces pieces written) view).map Extent.placement =
      (references pieces view).map Extent.placement ∧
    (references (writtenPieces pieces written) view).Sublist written := by
  induction same with
  | nil => exact ⟨rfl, .slnil⟩
  | @cons piece extent pieces written head _ induction =>
    have split : writtenPieces (piece :: pieces) (extent :: written) =
        ⟨extent, piece.present⟩ :: writtenPieces pieces written := rfl
    rw [split]
    simp only [references, filter_cons] at induction ⊢
    split
    · rw [map_cons, map_cons, map_cons, map_cons, head, induction.1]
      exact ⟨rfl, induction.2.cons_cons extent⟩
    · exact ⟨induction.1, induction.2.cons extent⟩

theorem assigned_placements (pieces : List SharedPiece) :
    Forall₂ (fun piece extent => extent.placement = piece.extent.placement) pieces
      ((assignOffsets 0 (pieces.map SharedPiece.extent)).map (Extent.recorded memory)) := by
  have general : ∀ base, Forall₂
      (fun piece extent => extent.placement = piece.extent.placement) pieces
      ((assignOffsets base (pieces.map SharedPiece.extent)).map (Extent.recorded memory)) := by
    induction pieces with
    | nil => exact fun _ => .nil
    | cons piece pieces induction => exact fun base => .cons rfl (induction _)
  exact general 0

/-! ## Order and tiling -/

theorem checkCanonicalOrder_sorted [Builtins]
    (hashed : ∀ extent ∈ extents, extent.sha256.isSome = true)
    (sorted : extents.Pairwise fun left right => left.canonicalKey ≤ right.canonicalKey) :
    checkCanonicalOrder (extents.map Extent.toDict) = .ok () := by
  let placed : List (Extent × Nat) := extents.zipIdx
  let record (item : Extent × Nat) : Dict × Nat := (item.1.toDict, item.2)
  have indexed : (extents.map Extent.toDict).zipIdx = placed.map record := by
    rw [zipIdx_map]
    rfl
  let key (item : Dict × Nat) : Checked (String ×ₗ Int) := do
    let digest ← item.1.item "sha256"
    let size ← item.1.int "size"
    return toLex (digest.toText, size)
  have keys : ∀ item ∈ placed, key (record item) = .ok item.1.canonicalKey := by
    intro item member
    have listed := fst_mem_of_mem_zipIdx member
    obtain ⟨text, found⟩ := Option.isSome_iff_exists.mp (hashed item.1 listed)
    simp only [key, record, Extent.toDict_item_sha256 found, item.1.toDict_int_size,
      ok_bind, found, Extent.canonicalKey, Option.getD_some, Json.toText_str]
    rfl
  have still : sortedOn (fun item => item.1.canonicalKey) placed = placed := by
    apply sortedOn_eq_self
    have projected : (placed.map Prod.fst).Pairwise fun left right =>
        left.canonicalKey ≤ right.canonicalKey := by
      rw [zipIdx_map_fst]
      exact sorted
    rwa [pairwise_map] at projected
  have ordered : sortedBy key (placed.map record) = .ok (placed.map record) := by
    rw [sortedBy_map_ok keys, still]
  have same : ((placed.map record).zip (placed.map record)).all (fun pair =>
      pair.1.2 == pair.2.2 || (Json.obj pair.1.1).equal (.obj pair.2.1)) = true := by
    apply all_eq_true.mpr
    intro pair member
    rw [zip_eq_zipWith, zipWith_self] at member
    rcases mem_map.mp member with ⟨item, _, rfl⟩
    simp
  unfold checkCanonicalOrder
  rw [indexed]
  rw [ordered, ok_bind, same, require_true]

def entryFields (allocation : Allocation) : Dict :=
  [("ptr", .int allocation.pointer), ("size", .int allocation.size), ("tag", .str allocation.tag)]

theorem entryRecords (allocations : List Allocation) :
    allocations.map entryRecord = (allocations.map entryFields).map .obj := by
  rw [map_map]
  rfl

theorem allocationRanges_ordered [Builtins] (setting : Setting) :
    allocationRanges (setting.ordered.map entryFields) =
      .ok (setting.ordered.map Allocation.range) := by
  have read : mapEach extentRange (setting.ordered.map entryFields) =
      .ok (setting.ordered.map Allocation.range) := mapEach_map fun _ _ => rfl
  have distinct : (([] ++ setting.ordered.map Allocation.range).map Prod.fst).Nodup :=
    setting.ordered_tidy.starts_nodup
  rw [allocationRanges, read, ok_bind, foldl_insertSpan distinct, nil_append]
  rfl

variable {allocations : List Allocation}

theorem findSpan_pointer (distinct : (allocations.map Allocation.pointer).Nodup)
    {allocation : Allocation} (member : allocation ∈ allocations) :
    findSpan (allocations.map Allocation.range) allocation.pointer = some allocation.range := by
  have starts : ((allocations.map Allocation.range).map Prod.fst).Nodup := by
    rw [map_map]
    exact distinct
  exact find_of_nodup starts (mem_map_of_mem member)

theorem checkTiling_inside [Builtins] (distinct : (allocations.map Allocation.pointer).Nodup)
    (inside : ∀ extent ∈ extents, 0 < extent.size ∧ extent.Inside allocations) :
    checkTiling (allocations.map Allocation.range) (extents.map Extent.toDict) =
      .ok (extents.map Extent.placement) := by
  rw [checkTiling]
  apply mapEach_map
  intro extent member
  rcases inside extent member with ⟨size, allocation, held, owner, starts, stops⟩
  have found := findSpan_pointer distinct held
  rw [← owner] at found
  simp only [readPlacement, extent.toDict_int_ptr, extent.toDict_int_size,
    extent.toDict_int_owner, ok_bind, found]
  simp [Allocation.range, require, size.not_ge, starts.not_gt, stops.not_gt,
    ok_bind, pure, Except.pure, Extent.placement, Extent.range]

theorem allTiled_of_covers (sizes : ∀ allocation ∈ allocations, 0 < allocation.size)
    (positive : ∀ extent ∈ extents, 0 < extent.size) (covers : ∀ allocation ∈ allocations, ∀ point,
      ownedCount allocation.pointer extents point = coverCount [allocation.range] point) :
    allTiled (allocations.map Allocation.range) (extents.map Extent.placement) = true := by
  apply all_eq_true.mpr
  intro span member
  rcases mem_map.mp member with ⟨allocation, held, rfl⟩
  have size := sizes allocation held
  apply tiles_of_coverCount
  · simp only [Allocation.range, Allocation.stop]
    omega
  · intro range listed
    rw [ownedBy_eq_filter] at listed
    rcases mem_map.mp listed with ⟨extent, filtered, rfl⟩
    have size := positive extent (mem_filter.mp filtered).1
    simp only [Extent.range]
    omega
  · exact covers allocation held

theorem checkEntries_ordered [Builtins] {setting : Setting} {manifest : Dict} (error : PyError)
    (bytes : manifest.getD "allocation_bytes" (.int (-1)) = .int (poolBytes setting.ordered)) :
    checkEntries error manifest (setting.weights.map Allocation.size).sum false
      (setting.ordered.map entryFields) = .ok () := by
  have total : poolBytes setting.ordered = (setting.weights.map Allocation.size).sum :=
    ((sortedOn_perm _ _).map Allocation.size).sum_eq
  have sizes : sumSizes (setting.ordered.map entryFields) = .ok (poolBytes setting.ordered) := by
    have read : mapEach (fun extent : Dict => extent.int "size")
        (setting.ordered.map entryFields) = .ok (setting.ordered.map Allocation.size) :=
      mapEach_map fun _ _ => rfl
    rw [sumSizes, read]
    rfl
  simp only [checkEntries, bytes, Json.toInt_int, ok_bind, total, decide_true,
    Bool.or_true, require_true, sizes]
  apply foldEach_check
  intro entry member
  rcases mem_map.mp member with ⟨allocation, listed, rfl⟩
  have size := setting.ordered_size_pos allocation listed
  have read : int (entryFields allocation) "size" = .ok allocation.size := rfl
  have tagged : get (entryFields allocation) "tag" = .str allocation.tag := rfl
  have names : (entryFields allocation).map Prod.fst = ["ptr", "size", "tag"] := rfl
  have keys : sameSet ["ptr", "size", "tag"] ["ptr", "size", "tag"] = true := by decide
  rw [read, ok_bind, tagged, names, keys,
    setting.weights_tagged allocation (Setting.mem_ordered.mp listed)]
  simp [size.not_ge, require]

/-! ## The exported manifest -/

structure NativeExtents (setting : Setting) (memory : Int → UInt8)
    (model residual : List Extent) : Prop where
  inside : ∀ extent ∈ model ++ residual, 0 < extent.size ∧ extent.Inside setting.ordered
  covers : ∀ allocation ∈ setting.ordered, ∀ point,
    ownedCount allocation.pointer (model ++ residual) point = coverCount [allocation.range] point
  recorded : ∀ extent ∈ model ++ residual,
    extent.crc32 = some (hex8 (Crc32.crc32 (extent.bytes memory) 0))

theorem ownedCount_append (owner : Int) (left right : List Extent) (point : Int) :
    ownedCount owner (left ++ right) point =
      ownedCount owner left point + ownedCount owner right point := by
  rw [ownedCount, map_append, ownedBy_append, coverCount_append]
  rfl

theorem ownedCount_perm {left right : List Extent}
    (perm : (left.map Extent.placement).Perm (right.map Extent.placement)) (owner point : Int) :
    ownedCount owner left point = ownedCount owner right point :=
  coverCount_perm ((perm.filter _).map _) point

namespace NativeExport

variable [Hashing] {setting : Setting} {memory : Int → UInt8} {state : Json} {world : World}
variable {plan : RecoveryPlan} {nativeResidual : List Extent} {written : WrittenBlob}
variable {pack : WrittenBlob × Stat} {generation : String}

abbrev residualExtents (plan : RecoveryPlan) (written : WrittenBlob) : List Extent :=
  references (writtenPieces plan.pieces written.extents) 1

section

variable (left : NativeExport setting memory state plan written pack generation world)

include left

theorem residual_placements :
    (residualExtents plan written).map Extent.placement =
      (references plan.pieces 1).map Extent.placement ∧
    (residualExtents plan written).Sublist written.extents := by
  have same := assigned_placements memory plan.pieces
  rw [← left.blob.recorded] at same
  exact references_written same 1

theorem model_placements :
    (pack.1.extents.map Extent.placement).Perm (plan.nativeModel.map Extent.placement) := by
  rw [left.model.blob.recorded, map_map]
  have assigned : (assignOffsets 0 (canonicalExtents memory plan.nativeModel)).map
      (Extent.placement ∘ Extent.recorded memory) =
      (canonicalExtents memory plan.nativeModel).map Extent.placement :=
    assignOffsets_map (fun _ _ => rfl) 0 _
  rw [assigned]
  have perm := (sortedOn_perm Extent.canonicalKey
    (plan.nativeModel.map (Extent.fingerprinted memory))).map Extent.placement
  rw [map_map] at perm
  exact perm

omit left in
omit [Hashing] in
theorem recorded_of_mem {extent : Extent}
    (member : extent ∈ (assignOffsets 0 extents).map (Extent.recorded memory)) :
    extent.crc32 = some (hex8 (Crc32.crc32 (extent.bytes memory) 0)) := by
  rcases mem_map.mp member with ⟨placed, _, rfl⟩
  rfl

theorem listed (exported : ExportPlan setting plan nativeResidual) :
    NativeExtents setting memory pack.1.extents (residualExtents plan written) := by
  have model := left.model_placements
  have residual := left.residual_placements
  constructor
  · intro extent member
    -- Whether an extent is inside an allocation depends on its placement alone.
    have placed : extent.placement ∈
        (plan.nativeModel ++ references plan.pieces 1).map Extent.placement := by
      rw [map_append, ← residual.1]
      rcases mem_append.mp member with member | member
      · exact mem_append_left _ (model.mem_iff.mp (mem_map_of_mem member))
      · exact mem_append_right _ (mem_map_of_mem member)
    rcases mem_map.mp placed with ⟨original, listed, same⟩
    have held : 0 < original.size ∧ original.Inside setting.ordered := by
      rcases mem_append.mp listed with listed | listed
      · exact exported.model_inside original listed
      · rcases mem_map.mp listed with ⟨piece, filtered, rfl⟩
        exact exported.pieces_inside piece (mem_filter.mp filtered).1
    simp only [Extent.placement, Extent.range, Placement.mk.injEq, Prod.mk.injEq] at same
    rcases held with ⟨size, allocation, allocationMember, owner, starts, stops⟩
    refine ⟨by omega, allocation, allocationMember, ?_, ?_, ?_⟩ <;> omega
  · intro allocation member point
    rw [ownedCount_append, ownedCount_perm model, ownedCount_perm (.of_eq residual.1)]
    exact exported.covers member point
  · intro extent member
    rcases mem_append.mp member with member | member
    · rw [left.model.blob.recorded] at member
      exact recorded_of_mem member
    · have listed := residual.2.subset member
      rw [left.blob.recorded] at listed
      exact recorded_of_mem listed

abbrev manifest (setting : Setting) (state : Json) (plan : RecoveryPlan) (written : WrittenBlob)
    (pack : WrittenBlob × Stat) (generation : String) : Dict :=
  nativeManifestRecord setting generation pack.1 written pack.2 (residualExtents plan written)
    (poolBytes plan.allocations) (plan.allocations.map entryRecord) state

theorem model_nonempty (exported : ExportPlan setting plan nativeResidual)
    : pack.1.extents ≠ [] := by
  intro empty
  have perm := left.model_placements
  rw [empty, map_nil, nil_perm, map_eq_nil_iff] at perm
  exact exported.native.model_nonempty perm

omit left in
theorem model_positive (exported : ExportPlan setting plan nativeResidual) :
    ∀ extent ∈ canonicalExtents memory plan.nativeModel, extent.Positive := by
  intro extent member
  rcases mem_canonicalExtents member with ⟨original, listed, rfl⟩
  exact (exported.model_inside original listed).1

omit left in
omit [Hashing] in
theorem stored_positive (exported : ExportPlan setting plan nativeResidual) :
    ∀ extent ∈ plan.pieces.map SharedPiece.extent, extent.Positive := by
  intro extent member
  rcases mem_map.mp member with ⟨piece, listed, rfl⟩
  exact (exported.pieces_inside piece listed).1

theorem checkModelFile_exported [Builtins] :
    checkModelFile (pack.1.extents.map Extent.toDict) pack.1.bytes = .ok () := by
  rw [left.model.blob.recorded, left.model.blob.bytes]
  apply checkModelFile_assigned
  intro extent member
  rcases mem_canonicalExtents member with ⟨original, _, rfl⟩
  exact ⟨_, rfl⟩

theorem checkCanonicalOrder_exported [Builtins] :
    checkCanonicalOrder (pack.1.extents.map Extent.toDict) = .ok () := by
  have keys : pack.1.extents.map Extent.canonicalKey =
      (canonicalExtents memory plan.nativeModel).map Extent.canonicalKey := by
    rw [left.model.blob.recorded, map_map]
    exact assignOffsets_map (fun _ _ => rfl) 0 _
  have sorted : (pack.1.extents.map Extent.canonicalKey).Pairwise (· ≤ ·) := by
    rw [keys, pairwise_map]
    exact sortedOn_pairwise Extent.canonicalKey _
  apply checkCanonicalOrder_sorted
  · intro extent member
    rw [left.model.blob.recorded] at member
    rcases mem_map.mp member with ⟨placed, placedMember, rfl⟩
    rcases mem_assignOffsets placedMember with ⟨original, listed, equal⟩
    rcases mem_canonicalExtents listed with ⟨source, _, rfl⟩
    rw [equal]
    rfl
  · exact pairwise_map.mp sorted

section

variable (exported : ExportPlan setting plan nativeResidual)

include exported

theorem validateResidual_exported [Builtins] :
    validateResidualFileExtents ((residualExtents plan written).map Extent.toDict) written.bytes
      (.str residualLayoutShared) = .ok () := by
  have positive := stored_positive exported
  have whole := paddedRun_assigned memory positive (show (0 : Int) % 4096 = 0 by decide)
  rw [← left.blob.recorded, zero_add, ← left.blob.bytes] at whole
  have run := whole.sublist left.residual_placements.2
  have aligned : written.bytes % 4096 = 0 := by
    rw [left.blob.bytes]
    exact packedExtentBytes_mod _
  exact run.validates (run.fileBytes_pos left.nonempty) aligned

theorem checkTiling_exported [Builtins] :
    checkTiling (setting.ordered.map Allocation.range)
      (pack.1.extents.map Extent.toDict ++ (residualExtents plan written).map Extent.toDict) =
        .ok ((pack.1.extents ++ residualExtents plan written).map Extent.placement) := by
  rw [← map_append]
  exact checkTiling_inside setting.ordered_tidy.pointers_nodup (left.listed exported).inside

theorem allTiled_exported :
    allTiled (setting.ordered.map Allocation.range)
      ((pack.1.extents ++ residualExtents plan written).map Extent.placement) = true :=
  allTiled_of_covers setting.ordered_size_pos
    (fun extent member => ((left.listed exported).inside extent member).1)
    (left.listed exported).covers

omit exported in
theorem checkBytes_exported [Builtins] :
    checkBytes (manifest setting state plan written pack generation)
      (pack.1.extents.map Extent.toDict) ((residualExtents plan written).map Extent.toDict)
      false = .ok () := by
  let document := manifest setting state plan written pack generation
  change checkBytes document _ _ _ = _
  have model : int document "model_weight_bytes" = .ok (logicalBytes pack.1.extents) := rfl
  have residual : int document "residual_bytes" =
      .ok (logicalBytes (residualExtents plan written)) := rfl
  have whole : int document "allocation_bytes" = .ok (poolBytes plan.allocations) := rfl
  simp [checkBytes, sumSizes_toDict, model, residual, whole, checkWhen, left.covered]

theorem validates [Builtins] {blobStat residualStat : Stat}
    (blobBytes : blobStat.bytes = pack.1.bytes) (residualBytes : residualStat.bytes = written.bytes)
    :
    validateSplitNative setting
      ⟨modelPayloadName, "weights.blob", blobStat, residualStat, false⟩
      (manifest setting state plan written pack generation)
      (setting.ordered.map entryFields) = .ok () := by
  let record := manifest setting state plan written pack generation
  have modelName : record.get "model_blob" = .str modelPayloadName :=
    congrArg (fun path : Path => Json.str path.name) left.model.named
  have residualName : record.get "residual_blob" = .str "weights.blob" :=
    congrArg (fun path : Path => Json.str path.name) left.path
  have modelList : extentList (record.get "model_weight_extents") =
      some (pack.1.extents.map Extent.toDict) := by
    apply extentList_toDict
    exact left.model_nonempty exported
  have residualList : extentList (record.get "residual_extents") =
      some ((residualExtents plan written).map Extent.toDict) := by
    apply extentList_toDict
    exact left.nonempty
  have modelBytes : (record.getD "model_blob_bytes" (.int (-1))).toInt = .ok pack.1.bytes := rfl
  have residualFile : (record.getD "residual_blob_bytes" (.int (-1))).toInt =
      .ok written.bytes := rfl
  have modelFileBytes : record.int "model_blob_bytes" = .ok pack.1.bytes := rfl
  have residualFileBytes : record.int "residual_blob_bytes" = .ok written.bytes := rfl
  have layout : record.get "residual_layout" = .str residualLayoutShared := rfl
  have verified : record.get "verify_mode" = .str setting.verifyMode.text := rfl
  have preverified : record.get "preverified" =
      .bool (setting.verifyMode = .preverified && written.preverified) := rfl
  have flags : ((record.get "portable_model_payload").isTrue
      && (record.get "portable_residual_blob").isTrue
      && (record.get "blob_reused").isFalse
      && (record.get "checksum").equal (.str "crc32")
      && (record.get "verify_mode").equal (.str setting.verifyMode.text)
      && (if setting.verifyMode = .preverified then (record.get "preverified").isTrue
          else (record.get "preverified").isFalse)) = true := by
    rw [verified, preverified, left.preverified]
    cases setting.verifyMode <;> rfl
  have bytes : record.getD "allocation_bytes" (.int (-1)) = .int (poolBytes setting.ordered) := by
    rw [← exported.allocations]
    rfl
  have entries := checkEntries_ordered splitNativeError bytes
  unfold validateSplitNative
  rw [modelName, residualName, modelList, residualList]
  rw [modelBytes, residualFile]
  simp only [blobBytes, residualBytes, decide_true, require_true, ok_bind]
  rw [flags, entries, allocationRanges_ordered]
  simp only [require_true, ok_bind]
  rw [left.checkTiling_exported exported, modelFileBytes, residualFileBytes, layout]
  simp only [ok_bind]
  rw [left.checkModelFile_exported, left.validateResidual_exported exported,
    left.checkCanonicalOrder_exported, left.allTiled_exported exported, left.checkBytes_exported]
  rfl

end

end

end NativeExport

end Coldsnap.DiskBackend
