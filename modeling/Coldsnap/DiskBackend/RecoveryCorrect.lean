import Coldsnap.DiskBackend.AcceptanceCorrect
import Coldsnap.DiskBackend.ModelPackCorrect
import Coldsnap.DiskBackend.PartitionCorrect

/-! # What an export leaves on disk

`_write_recovery_manifest` with the native export enabled writes the shared
residual file, the model pack and a split-native manifest which lists both.
-/

namespace Coldsnap.DiskBackend

open Python Program Intervals List Checked

variable {regime : Regime} {nature : Nature} {setting : Setting} {start : World}

/-! ## The plan -/

variable {allocation : Allocation}

theorem Setting.mem_ordered : allocation ∈ setting.ordered ↔ allocation ∈ setting.weights :=
  (sortedOn_perm _ _).mem_iff

theorem Setting.ordered_tidy (setting : Setting) : Tidy (setting.ordered.map Allocation.range) :=
  setting.weights_tidy.perm ((sortedOn_perm _ _).symm.map _)

theorem Setting.ordered_size_pos (setting : Setting) :
    ∀ allocation ∈ setting.ordered, 0 < allocation.size := by
  intro allocation member
  have bounds := (setting.ordered_tidy.1 _ (mem_map_of_mem member)).2
  simp only [Allocation.range, Allocation.stop] at bounds
  omega

/-- A plan for an export: both layouts partition the pool, and the pieces are
shared between their residuals. -/
structure ExportPlan (setting : Setting) (plan : RecoveryPlan) (nativeResidual : List Extent) :
    Prop where
  allocations : plan.allocations = setting.ordered
  recovery : Partitions setting.ordered plan.model plan.residual
  native : Partitions setting.ordered plan.nativeModel nativeResidual
  shared : sharedResidualExtents [plan.residual, nativeResidual] = .ok plan.pieces

variable {plan : RecoveryPlan}

theorem planRecovery_eq_ok [Hashing] {bindings : Bindings}
    (returned : planRecovery setting bindings true = .ok plan) :
    ∃ nativeResidual, ExportPlan setting plan nativeResidual := by
  simp only [planRecovery, nativePartition, if_true, bind_eq_ok, require_eq_ok,
    pure_eq_ok] at returned
  obtain ⟨_, _, layout, _, recovery, partitioned, native, nativePartitioned, pieces, shared, rfl⟩ :=
    returned
  have distinct := setting.ordered_tidy.pointers_nodup
  exact ⟨native.2, rfl,
    partitionSemanticWeightExtents_partitions distinct setting.ordered_size_pos partitioned,
    partitionSemanticWeightExtents_partitions distinct setting.ordered_size_pos nativePartitioned,
    shared⟩

namespace ExportPlan

variable {nativeResidual : List Extent}

section

variable (exported : ExportPlan setting plan nativeResidual)

include exported

theorem pieces_eq : plan.pieces = sharedPieces [plan.residual, nativeResidual] := by
  have swept := exported.shared.symm.trans (sharedResidualExtents_eq_ok
    (forall_mem_cons.mpr ⟨exported.recovery.residualView,
      forall_mem_singleton.mpr exported.native.residualView⟩))
  exact Except.ok.inj swept

theorem pieces_inside :
    ∀ piece ∈ plan.pieces, 0 < piece.extent.size ∧ piece.extent.Inside setting.ordered := by
  rw [exported.pieces_eq]
  apply sharedPieces_inside setting.ordered_tidy.pointers_nodup
  intro view viewMember extent extentMember
  rcases mem_pair.mp viewMember with rfl | rfl
  · exact ⟨exported.recovery.positive extent (mem_append_right _ extentMember),
      exported.recovery.inside extent (mem_append_right _ extentMember)⟩
  · exact ⟨exported.native.positive extent (mem_append_right _ extentMember),
      exported.native.inside extent (mem_append_right _ extentMember)⟩

theorem model_inside :
    ∀ extent ∈ plan.nativeModel, 0 < extent.size ∧ extent.Inside setting.ordered :=
  fun extent member => ⟨exported.native.positive extent (mem_append_left _ member),
    exported.native.inside extent (mem_append_left _ member)⟩

theorem ordered_nonempty : setting.ordered ≠ [] := by
  intro empty
  rcases exists_mem_of_ne_nil _ exported.native.model_nonempty with ⟨extent, member⟩
  rcases (exported.model_inside extent member).2 with ⟨allocation, held, _⟩
  rw [empty] at held
  cases held

theorem covers (member : allocation ∈ setting.ordered) (point : Int) :
    ownedCount allocation.pointer plan.nativeModel point +
      ownedCount allocation.pointer (references plan.pieces 1) point =
        coverCount [allocation.range] point := by
  have inside : 1 < [plan.residual, nativeResidual].length := Nat.one_lt_two
  have referenced := ownedCount_references inside
    exported.native.residualView allocation.pointer point
  have whole := exported.native.covers allocation member point
  rw [exported.pieces_eq, referenced]
  exact whole

end

end ExportPlan

/-! ## The files -/

def SnapshotFile : Path → Prop
  | .snapshot _ => True
  | .temporary _ => True
  | .scratch _ => False
  | .state => False

/-- What the native export leaves: the shared residual file, the model pack and
the manifest which lists both. -/
structure NativeExport [Hashing] (setting : Setting) (memory : Int → UInt8) (state : Json)
    (plan : RecoveryPlan) (written : WrittenBlob) (pack : WrittenBlob × Stat)
    (generation : String) (world : World) : Prop where
  blob : BlobOf memory (plan.pieces.map SharedPiece.extent) false written
  path : written.path = .snapshot "weights.blob"
  preverified : written.preverified = decide (setting.verifyMode = .preverified)
  residual : Written (.snapshot "weights.blob")
    (packedExtentBytes (plan.pieces.map SharedPiece.extent))
    (packed memory (plan.pieces.map SharedPiece.extent)) world
  model : PackOf memory plan.nativeModel (.snapshot modelPayloadName) pack world
  document : Document (.snapshot nativeManifestName) (.obj (nativeManifestRecord setting
    generation pack.1 written pack.2 (references (writtenPieces plan.pieces written.extents) 1)
    (poolBytes plan.allocations) (plan.allocations.map entryRecord) state)) world
  covered : logicalBytes pack.1.extents +
    logicalBytes (references (writtenPieces plan.pieces written.extents) 1) =
      poolBytes plan.allocations
  nonempty : references (writtenPieces plan.pieces written.extents) 1 ≠ []

variable {written : WrittenBlob}

theorem NativeExport.of_files [Hashing] {memory : Int → UInt8} {state : Json}
    {pack : WrittenBlob × Stat} {generation : String} {world other : World}
    (left : NativeExport setting memory state plan written pack generation world)
    (residual : other.files (.snapshot "weights.blob") = world.files (.snapshot "weights.blob"))
    (model : other.files (.snapshot modelPayloadName) = world.files (.snapshot modelPayloadName))
    (document : other.files (.snapshot nativeManifestName) =
      world.files (.snapshot nativeManifestName)) :
    NativeExport setting memory state plan written pack generation other where
  __ := left
  residual := written_of_files_eq residual left.residual
  model := ⟨left.model.blob, left.model.named, written_of_files_eq model left.model.written, by
    rw [model]
    exact left.model.stat⟩
  document := by
    unfold Document
    rw [document]
    exact left.document

theorem unlinkRecoveryFiles_keeps (exporting : Bool)
    (inside : SnapshotFile start.backend.manifestPath ∧ SnapshotFile start.backend.blobPath) :
    regime.Within SnapshotFile start (fun _ => True)
      (unlinkRecoveryFiles exporting) fun _ _ => True := by
  have removes : ∀ {path : Path}, SnapshotFile path →
      regime.Within SnapshotFile start (fun _ => True) (unlink path) fun _ _ => True :=
    fun touched => unlink_keeps touched fun _ _ => trivial
  have settled : regime.Within SnapshotFile start (fun _ => True) syncDirectory
      fun _ _ => True := quiet_ofFiles ofFiles_true
  unfold unlinkRecoveryFiles
  apply bindBackend fun _ holds _ => holds.field fun _ _ _ => rfl
  apply Contract.bind (removes inside.1)
  intro _
  apply bindBackend fun _ holds _ => holds.field fun _ _ _ => rfl
  apply Contract.bind (removes inside.2)
  intro _
  apply Contract.through fun _ _ => True
  · exact .onlyIf (fun _ => .bind (removes trivial) fun _ =>
      .bind (removes trivial) fun _ => removes trivial) fun _ _ _ _ => trivial
  intro _
  exact .bind (removes trivial) fun _ => settled

theorem ensureSpace_keeps (permits : regime.allowed) {touched : Path → Prop} {required : Int}
    {property : World → Prop} (ofFiles : OfFiles property) :
    regime.Within touched start property (ensureSpace nature setting required)
      fun _ => property := by
  apply Contract.through fun _ => property
  · exact ask_keeps (fun _ holds => holds.ticked) fun world _ starts =>
      ofFiles world world.ticked rfl starts
  intro available
  exact .require (fun _ _ _ _ => permits) fun _ _ _ => id

theorem Extent.Inside.accessible {extent : Extent} (inside : extent.Inside setting.ordered)
    {device : Device} (mapped : device.holdsWeights setting) :
    device.accessible setting.pool extent.ptr extent.size = true := by
  rcases inside with ⟨allocation, member, _, starts, stops⟩
  have listed := Setting.mem_ordered.mp member
  apply any_eq_true.mpr
  refine ⟨allocation, mem_append_left _ listed, ?_⟩
  simp [mapped allocation listed, starts, stops]

/-- The files of the native export, without the shared residual file. -/
def ExportFile (path : Path) : Prop :=
  path ∈ [Path.snapshot modelPayloadName, (Path.snapshot modelPayloadName).temporary,
    Path.snapshot nativeManifestName, (Path.snapshot nativeManifestName).temporary]

theorem exportFile_snapshot : ∀ path, ExportFile path → SnapshotFile path := by
  intro path member
  simp only [ExportFile, mem_cons, not_mem_nil, or_false] at member
  rcases member with rfl | rfl | rfl | rfl <;> trivial

def Exported [Hashing] (setting : Setting) (start : World) (plan : RecoveryPlan)
    (written : WrittenBlob) (world : World) : Prop :=
  ∃ pack generation, NativeExport setting start.device.memory
    start.backend.nativeModelExecutionState plan written pack generation world

theorem exportModelPayload_keeps [Hashing] (permits : regime.allowed)
    {nativeResidual : List Extent} (exported : ExportPlan setting plan nativeResidual)
    (reach : regime.careless ∨ start.device.holdsWeights setting) {manifest : Dict}
    (blob : BlobOf start.device.memory (plan.pieces.map SharedPiece.extent) false written)
    (path : written.path = .snapshot "weights.blob")
    (preverified : written.preverified = decide (setting.verifyMode = .preverified)) :
    regime.Within SnapshotFile start (Written (.snapshot "weights.blob")
        (packedExtentBytes (plan.pieces.map SharedPiece.extent))
        (packed start.device.memory (plan.pieces.map SharedPiece.extent)))
      (exportModelPayload nature setting plan manifest (.snapshot "manifest.json") written
        (references (writtenPieces plan.pieces written.extents) 1))
      fun _ => Exported setting start plan written := by
  let residual := references (writtenPieces plan.pieces written.extents) 1
  let record (pack : WrittenBlob × Stat) (generation : String) : Json :=
    .obj (nativeManifestRecord setting generation pack.1 written pack.2 residual
      (poolBytes plan.allocations) (plan.allocations.map entryRecord)
      start.backend.nativeModelExecutionState)
  let holdsPack (pack : WrittenBlob × Stat) (generation : String) (world : World) : Prop :=
    PackOf start.device.memory plan.nativeModel (.snapshot modelPayloadName) pack world ∧
      logicalBytes pack.1.extents + logicalBytes residual = poolBytes plan.allocations ∧
      residual ≠ [] ∧ Document (.snapshot nativeManifestName) (record pack generation) world
  have writes : ∀ middle, regime.Frame SnapshotFile start middle →
      regime.Within ExportFile middle (fun _ => True)
        (writeModelPayload nature setting plan.nativeModel (.snapshot modelPayloadName)
          (.snapshot nativeManifestName) (poolBytes plan.allocations)
          (plan.allocations.map entryRecord) (some (written, residual)))
        fun _ world => ∃ pack generation, holdsPack pack generation world := by
    intro middle holds
    have reachAll : regime.ReachesAll setting middle.device plan.nativeModel := by
      intro extent member
      rw [Regime.Reaches, holds.accessible]
      exact reach.imp_right (exported.model_inside extent member).2.accessible
    apply Contract.ending ?_ (writeModelPayload_keeps
      (fun extent member => (exported.model_inside extent member).1) reachAll permits
      (by simp [ExportFile]) (by simp [ExportFile]) (by simp [ExportFile]) (by simp [ExportFile])
      (by decide))
    rintro _ world _ ⟨pack, packOf, _, listed⟩
    rcases listed (written, residual) rfl with ⟨generation, covered, nonempty, document⟩
    have state : middle.backend.nativeModelExecutionState =
        start.backend.nativeModelExecutionState := holds.field fun _ _ _ => rfl
    rw [holds.memory] at packOf
    rw [state] at document
    exact ⟨pack, generation, packOf, covered, nonempty, document⟩
  let exports := Exported setting start plan written
  have away : AwayFrom (fun other => other = .snapshot "manifest.json" ∨
      other = (Path.snapshot "manifest.json").temporary) exports := by
    rintro world other same ⟨pack, generation, holds⟩
    exact ⟨pack, generation, holds.of_files (same _ (by decide)) (same _ (by decide))
      (same _ (by decide))⟩
  have marks : regime.Within SnapshotFile start exports
      (onBackend fun fields => { fields with modelPayloadExported := true }) fun _ => exports :=
    .assign fun world holds ends =>
      ⟨{ holds with backend := by rw [holds.backend] }, away.ofFiles world _ rfl ends⟩
  apply Contract.through fun _ => exports
  · apply Contract.ending ?_ (reframe exportFile_snapshot fun middle holds _ =>
      writes middle holds)
    rintro _ world _ ⟨middle, ⟨kept, frame⟩, pack, generation, packOf, covered, nonempty, document⟩
    have residualKept := frame.files (.snapshot "weights.blob") (by simp [ExportFile]; decide)
    exact ⟨pack, generation, blob, path, preverified, written_of_files_eq residualKept kept,
      packOf, document, covered, nonempty⟩
  intro payload
  apply Contract.bind (atomicJson_keeps trivial trivial away)
  intro _
  apply Contract.bind (.starting (fun _ _ ends => ends.1) marks)
  intro _
  exact .pure fun _ _ => id

/-- A backend which no activation provider has changed: it writes to the paths
the constructor chose and caches no native manifest. -/
structure Backend.Unactivated (fields : Backend) : Prop where
  manifestPath : fields.manifestPath = .snapshot "manifest.json"
  blobPath : fields.blobPath = .snapshot "weights.blob"
  manifest : fields.liveNativeManifest = none

theorem writeRecoveryManifest_exports [Hashing] (permits : regime.allowed)
    (enabled : setting.modelPayloadCaptureEnabled = true) (unactivated : start.backend.Unactivated)
    (reach : regime.careless ∨ start.device.holdsWeights setting) :
    regime.Within SnapshotFile start (fun world => world.backend.modelPayloadExported = false)
      (writeRecoveryManifest nature setting)
      fun _ world => ∃ plan nativeResidual, ExportPlan setting plan nativeResidual ∧
        ∃ written, Exported setting start plan written world := by
  unfold writeRecoveryManifest
  apply Contract.through fun exporting _ => exporting = true ∧ True
  · exact .read fun world _ pending => ⟨by simp [enabled, pending], trivial⟩
  intro answer
  apply Contract.assuming
  rintro rfl
  have inside : SnapshotFile start.backend.manifestPath ∧ SnapshotFile start.backend.blobPath := by
    rw [unactivated.manifestPath, unactivated.blobPath]
    exact ⟨trivial, trivial⟩
  apply Contract.bind (unlinkRecoveryFiles_keeps true inside)
  intro _
  apply bindBackend fun _ holds _ => holds.field fun _ _ _ => rfl
  apply Contract.bindExcept (fun _ _ _ _ _ => permits)
  intro plan planned
  rcases planRecovery_eq_ok planned with ⟨nativeResidual, exported⟩
  apply Contract.ending (fun _ _ _ ends => ⟨plan, nativeResidual, exported, ends⟩)
  apply Contract.bind (ensureSpace_keeps permits ofFiles_true)
  intro _
  apply bindBackend fun _ holds _ => (holds.field fun _ _ _ => rfl).trans unactivated.blobPath
  have positive : ∀ extent ∈ plan.pieces.map SharedPiece.extent, extent.Positive := by
    rw [forall_mem_map]
    intro piece listed
    exact (exported.pieces_inside piece listed).1
  have reachAll : regime.ReachesAll setting start.device (plan.pieces.map SharedPiece.extent) :=
    forall_mem_map.mpr fun piece listed =>
      reach.imp_right (exported.pieces_inside piece listed).2.accessible
  apply Contract.bind (writeExtentBlob_keeps permits trivial trivial positive reachAll)
  intro written
  apply Contract.assuming
  rintro ⟨blob, path, preverified⟩
  apply Contract.starting (fun _ _ starts => starts.1)
  apply Contract.bindRequire (fun _ _ _ _ => permits)
  intro _
  apply Contract.bindRead
  intro generation
  apply Contract.starting (fun _ _ starts => starts.1)
  apply Contract.bindExcept (fun _ _ _ _ _ => permits)
  intro modelSource _
  apply bindBackend fun _ holds _ => (holds.field fun _ _ _ => rfl).trans unactivated.manifestPath
  have away : AwayFrom (fun other => other = .snapshot "manifest.json" ∨
      other = (Path.snapshot "manifest.json").temporary)
      (Written (.snapshot "weights.blob")
        (packedExtentBytes (plan.pieces.map SharedPiece.extent))
        (packed start.device.memory (plan.pieces.map SharedPiece.extent))) :=
    fun world other same => written_of_files_eq (same _ (by decide))
  apply Contract.bind (atomicJson_keeps trivial trivial away)
  intro _
  apply Contract.starting (fun _ _ starts => starts.1)
  apply Contract.ending (fun _ _ _ ends => ⟨written, ends⟩)
  exact exportModelPayload_keeps permits exported reach blob path preverified

end Coldsnap.DiskBackend
