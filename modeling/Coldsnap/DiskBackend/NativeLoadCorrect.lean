import Coldsnap.DiskBackend.SplitNativeCorrect

/-! # Loading the exported manifest

With the native provider activated and nothing raising, `_load_manifest` returns
the manifest which the export recorded, and selects the files it lists.
-/

namespace Coldsnap.DiskBackend

open Python Program List Regime

variable {nature : Nature} {setting : Setting} {start : World}

structure Unmoved (start now : World) : Prop where
  files : now.files = start.files
  device : now.device = start.device
  restoreMapped : now.backend.restoreMapped = start.backend.restoreMapped
  bindings : now.backend.bindings = start.backend.bindings
  manifest : now.backend.liveNativeManifest = start.backend.liveNativeManifest

theorem Unmoved.refl (start : World) : Unmoved start start := ⟨rfl, rfl, rfl, rfl, rfl⟩

theorem Unmoved.ticked {now : World} (unmoved : Unmoved start now) : Unmoved start now.ticked :=
  { unmoved with }

structure SelectsNative (world : World) : Prop where
  manifestPath : world.backend.manifestPath = .snapshot nativeManifestName
  blobPath : world.backend.blobPath = .snapshot modelPayloadName
  source : world.backend.weightRecoverySource = weightSourceSplitNative

structure ReadsNative (path : Path) (world : World) : Prop extends SelectsNative world where
  residual : world.backend.residualBlobPath = path

def ActivatesNative (world : World) : Prop :=
  ∃ file, world.files (.snapshot activationProviderName) = some file ∧ file.meaning = .text "native"

variable {before : World → Prop}

theorem ask_returns {α : Type} {label : Label} {answer : World → Checked α} (value : α)
    (answers : ∀ world, Unmoved start world → answer world = .ok value)
    (timeless : ∀ world, before world → before world.ticked) :
    calm.Keeps (Unmoved start) before (ask label answer)
      fun result world => result = value ∧ before world := by
  apply ask_keeps fun _ holds => holds.ticked
  intro world holds starts
  rw [answers world holds, settles_ok]
  exact ⟨rfl, timeless world starts⟩

theorem selectProvider_native (activated : ActivatesNative start) :
    calm.Keeps (Unmoved start) (fun _ => True) (selectProvider setting)
      fun selected world => selected = some "native" ∧ SelectsNative world := by
  rcases activated with ⟨file, present, meaning⟩
  have active : ∀ world, Unmoved start world →
      Except.ok (world.files (.snapshot activationProviderName)).isSome =
        (Except.ok true : Checked Bool) := by
    intro world holds
    rw [holds.files, present]
    rfl
  apply Contract.bindKnown (ask_returns true active fun _ _ => trivial)
  apply Contract.bindKnown (ask_returns "native" (by
    intro world holds
    rw [holds.files, present]
    simp only [meaning]) fun _ _ => trivial)
  apply Contract.through fun _ _ => True
  · exact .assign fun world holds _ => ⟨{ holds with }, trivial⟩
  intro _
  rw [if_pos rfl]
  apply Contract.through fun _ => SelectsNative
  · exact .assign fun world holds _ =>
      ⟨{ holds with }, rfl, rfl, rfl⟩
  intro _
  exact .pure fun _ _ selected => ⟨rfl, selected⟩

theorem readManifest_native {manifest : Dict} {name : String}
    (document : Document (.snapshot nativeManifestName) (.obj manifest) start)
    (format : manifest.get "format" = .int manifestFormat)
    (kind : manifest.get "kind" = .str manifestKind)
    (residual : manifest.get "residual_blob" = .str name) (named : isFileName name = true) :
    calm.Keeps (Unmoved start) SelectsNative (readManifest (some "native"))
      fun result world => result = manifest ∧ ReadsNative (.snapshot name) world := by
  rcases document with ⟨file, present, meaning⟩
  unfold readManifest
  apply bindBackend fun _ _ selected => selected.manifestPath
  apply Contract.bindKnown (ask_returns (.obj manifest) (by
    intro world holds
    rw [holds.files, present]
    simp only [meaning]) fun _ selected => { selected with })
  simp only [Json.asDict, format, kind, residual, named, if_true, Json.equal_int, Json.equal_str,
    beq_self_eq_true, Bool.and_self]
  apply Contract.bindPasses rfl
  apply Contract.through fun _ => ReadsNative (.snapshot name)
  · exact .assign fun world holds selected =>
      ⟨{ holds with }, { selected with }, rfl⟩
  intro _
  exact .pure fun _ _ selected => ⟨rfl, selected⟩

theorem resolveManifest_native [Builtins] {manifest : Dict}
    (uncached : start.backend.liveNativeManifest = none) (relocated : ∀ ranges semantics,
      relocateSplitNativeManifest manifest setting.weights ranges semantics = .ok manifest)
    (complete : (manifest.get "requires_live_residual_snapshot").isTrue = false) :
    calm.Keeps (Unmoved start) before
      (resolveManifest nature setting .plain (some "native") manifest)
      fun result world => result = manifest ∧ before world := by
  unfold resolveManifest
  apply Contract.bindRead
  intro released
  apply Contract.starting fun _ _ starts => starts.1
  apply Contract.through fun cached world => cached.1 = none ∧ before world
  · exact .read fun world holds starts => ⟨holds.manifest.trans uncached, starts⟩
  rintro ⟨cached, cachedPath⟩
  apply Contract.assuming
  rintro rfl
  simp only [LoadOptions.plain, Bool.false_eq_true, if_false]
  split
  · next same => cases same
  · apply bindBackend fun _ holds _ => holds.bindings
    apply Contract.bindReturns (relocated _ _)
    simp only [complete, Bool.false_eq_true, if_false]
    exact .pure fun _ _ selected => ⟨rfl, selected⟩

theorem statIdentity_returns {path : Path} {file : File} (present : start.files path = some file)
    (timeless : ∀ world, before world → before world.ticked) :
    calm.Keeps (Unmoved start) before (statIdentity path)
      fun result world => result = file.stat ∧ before world := by
  apply ask_returns file.stat _ timeless
  intro world holds
  rw [holds.files, present]

/-- The state in which the exported payload can be restored. -/
structure Loaded (start now : World) : Prop where
  unmoved : Unmoved start now
  selects : SelectsNative now
  residual : now.backend.residualBlobPath = .snapshot "weights.blob"

theorem NativeExport.loads [Builtins] [Hashing] {memory : Int → UInt8} {state : Json}
    {plan : RecoveryPlan} {nativeResidual : List Extent} {written : WrittenBlob}
    {pack : WrittenBlob × Stat} {generation : String}
    (left : NativeExport setting memory state plan written pack generation start)
    (exported : ExportPlan setting plan nativeResidual) (activated : ActivatesNative start)
    (uncached : start.backend.liveNativeManifest = none) :
    calm.Keeps (Unmoved start) (fun _ => True) (loadManifest nature setting .plain)
      fun result world => result = manifest setting state plan written pack generation ∧
        Loaded start world := by
  let record := manifest setting state plan written pack generation
  have residualName : record.get "residual_blob" = .str "weights.blob" :=
    congrArg (fun path : Path => Json.str path.name) left.path
  have entries : record.get "entries" = .arr ((setting.ordered.map entryFields).map .obj) := by
    rw [← entryRecords, ← exported.allocations]
    rfl
  have layout : ∀ item ∈ setting.ordered, capturedLayout (entryFields item) =
      .ok (liveEntry (id item)) := fun _ _ => rfl
  have saved : ∀ item ∈ setting.ordered, savedEntry (entryFields item) =
      .ok (liveEntry (id item)) := fun _ _ => rfl
  have relocated : ∀ ranges semantics,
      relocateSplitNativeManifest record setting.weights ranges semantics = .ok record := by
    apply relocateSplitNativeManifest_same _ layout
    · rw [map_id]
      exact sortedOn_eq_self (sortedOn_pairwise _ _)
    · rw [entries, Json.asDicts_map]
  have allocations : checkAllocations setting record false =
      .ok (setting.ordered.map entryFields) := by
    apply checkAllocations_live _ saved
    · rw [map_id]
      exact sortedOn_perm _ _
    · rw [entries, extentList_map]
      simpa using exported.ordered_nonempty
  have own : OwnManifest setting record (Path.snapshot modelPayloadName).name :=
    ⟨rfl, rfl, rfl, rfl, rfl, congrArg (fun path : Path => Json.str path.name) left.model.named⟩
  rcases left.model.written with ⟨packFile, packPresent, packSize, _⟩
  rcases left.residual with ⟨residualFile, residualPresent, residualSize, _⟩
  have packBytes := packSize.trans left.model.blob.bytes.symm
  have residualBytes := residualSize.trans left.blob.bytes.symm
  have timeless : ∀ world, ReadsNative (.snapshot "weights.blob") world →
      ReadsNative (.snapshot "weights.blob") world.ticked := fun _ selected => { selected with }
  apply Contract.bindKnown (selectProvider_native activated)
  apply Contract.bindKnown (readManifest_native left.document rfl rfl residualName (by decide))
  apply Contract.bindKnown (resolveManifest_native uncached relocated rfl)
  apply bindBackend fun _ _ selected => selected.source
  apply Contract.bindPasses (by rfl)
  apply bindBackend fun _ _ selected => selected.blobPath
  apply Contract.bindReturns (checkOwnership_own own)
  apply Contract.bindReturns allocations
  apply Contract.bindKnown (statIdentity_returns packPresent timeless)
  apply bindBackend fun _ _ selected => selected.residual
  apply Contract.bindKnown (statIdentity_returns residualPresent timeless)
  apply Contract.bindReturns (left.validates exported packBytes residualBytes)
  exact .pure fun _ holds selected => ⟨rfl, holds, selected.1, selected.residual⟩

end Coldsnap.DiskBackend
