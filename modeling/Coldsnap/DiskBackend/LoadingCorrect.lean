import Coldsnap.DiskBackend.Loading
import Coldsnap.DiskBackend.ManifestCorrect
import Coldsnap.DiskBackend.RelocationCorrect

/-! # What an accepted manifest guarantees

Whatever the document says, a manifest which `_load_manifest` accepts for the
live layout covers the weights once, and its extents read ranges of their files
which exist and do not overlap.
-/

namespace Coldsnap.DiskBackend

open Python Intervals Checked

/-- The extents of a validated manifest tile the allocations it lists. -/
def TilesEntries [Builtins] (entries extents : List Dict) : Prop :=
  ∃ spans placements, allocationRanges entries = .ok spans ∧
    checkTiling spans extents = .ok placements ∧ allTiled spans placements = true

/-- The split-native extents of a manifest, as the validator saw them. -/
structure SplitNativeExtents [Builtins] (manifest : Dict) (model residual : List Dict) :
    Prop where
  modelListed : (manifest.get "model_weight_extents").asDicts = some model
  residualListed : (manifest.get "residual_extents").asDicts = some residual
  modelReads : ∃ fileBytes, manifest.int "model_blob_bytes" = .ok fileBytes ∧
    ReadsApart model fileBytes
  residualReads : ∃ fileBytes, manifest.int "residual_blob_bytes" = .ok fileBytes ∧
    ReadsApart residual fileBytes

variable {setting : Setting} {manifest : Dict} {entries : List Dict} {context : LoadContext}

theorem validateSplitNative_spec [Builtins]
    (returned : validateSplitNative setting context manifest entries = .ok ()) :
    ∃ model residual, SplitNativeExtents manifest model residual ∧
      TilesEntries entries (model ++ residual) := by
  simp only [validateSplitNative, bind_eq_ok, require_eq_ok] at returned
  rcases returned with ⟨_, _, _, _, returned⟩
  split at returned
  · next model residual modelListed residualListed =>
      simp only [bind_eq_ok, require_eq_ok, rescue_eq_ok] at returned
      rcases returned with ⟨_, _, _, _, _, _, _, _, _, _, _, _, spans, ranges, placements, tiling,
        modelBytes, readsModel, _, modelFile, residualBytes, readsResidual, _, residualFile,
        _, _, _, tiled, _⟩
      rcases checkTiling_spec tiling with ⟨_, _, sizes⟩
      refine ⟨model, residual, ⟨(extentList_eq_some modelListed).1,
        (extentList_eq_some residualListed).1, ⟨modelBytes, readsModel, ?_⟩,
        ⟨residualBytes, readsResidual, validateResidualFileExtents_reads residualFile⟩⟩,
        spans, placements, ranges, tiling, tiled⟩
      exact checkModelFile_reads
        (fun extent member => sizes extent (List.mem_append_left _ member)) modelFile
  · cases returned

/-- The extents of a recovery manifest. Model extents are reloaded from the model
source; only residual extents read the blob. -/
structure RecoveryExtents [Builtins] (manifest : Dict) (model residual : List Dict) :
    Prop where
  modelListed : (manifest.get "model_weight_extents").asDicts = some model
  residualListed : (manifest.get "residual_extents").asDicts = some residual
  residualReads : ∃ fileBytes, manifest.int "blob_bytes" = .ok fileBytes ∧
    ReadsApart residual fileBytes

theorem validateSafetensors_spec [Builtins]
    (returned : validateSafetensors setting context manifest entries = .ok ()) :
    ∃ model residual, RecoveryExtents manifest model residual ∧
      TilesEntries entries (model ++ residual) := by
  unfold validateSafetensors at returned
  split at returned
  · next model residual modelListed residualListed =>
      simp only [bind_eq_ok, require_eq_ok, rescue_eq_ok] at returned
      rcases returned with ⟨_, _, _, _, _, _, _, _, _, _, _, _, _, _, spans, ranges, placements,
        tiling, fileBytes, readsBytes, _, residualFile, _, tiled, _⟩
      exact ⟨model, residual, ⟨(extentList_eq_some modelListed).1,
        (extentList_eq_some residualListed).1,
        ⟨fileBytes, readsBytes, validateResidualFileExtents_reads residualFile⟩⟩,
        spans, placements, ranges, tiling, tiled⟩
  · cases returned

theorem checkAllocations_spec [Builtins]
    (returned : checkAllocations setting manifest false = .ok entries) :
    ∃ saved, mapEach savedEntry entries = .ok saved ∧
      distinctEntries saved = true ∧ matchesLive saved setting.weights = true := by
  unfold checkAllocations at returned
  split at returned
  · cases returned
  · simp only [bind_eq_ok, require_eq_ok, rescue_eq_ok,
      pure_eq_ok, Bool.false_or] at returned
    rcases returned with ⟨saved, read, _, distinct, _, same, rfl⟩
    exact ⟨saved, read, distinct, same⟩

theorem TilesEntries.covers [Builtins] {extents : List Dict} (tiles : TilesEntries entries extents)
    (accepted : checkAllocations setting manifest false = .ok entries) :
    ∃ ranges, mapEach extentRange extents = .ok ranges ∧ CoversOnce setting.weights ranges := by
  rcases tiles with ⟨spans, placements, ranges, tiling, tiled⟩
  rcases checkAllocations_spec accepted with ⟨saved, read, distinct, same⟩
  exact coversOnce_of_tiling setting.weights_tidy read distinct same ranges tiling tiled

structure AcceptedManifest [Builtins] (setting : Setting) (options : LoadOptions)
    (manifest : Dict) : Prop where
  splitNative : (manifest.getD "weight_source" (.str weightSourceBlob)).equal
      (.str weightSourceSplitNative) = true →
    ∃ model residual, SplitNativeExtents manifest model residual ∧
      (options.initialNative = false → ∃ ranges,
        mapEach extentRange (model ++ residual) = .ok ranges ∧
        CoversOnce setting.weights ranges)
  recovery : (manifest.getD "weight_source" (.str weightSourceBlob)).equal
      (.str weightSourceSafetensors) = true → options.allowMaterializationLayout = false →
    ∃ model residual, RecoveryExtents manifest model residual ∧
      (options.initialNative = false → ∃ ranges,
        mapEach extentRange (model ++ residual) = .ok ranges ∧
        CoversOnce setting.weights ranges)

theorem equal_of_getD {key text other : String} (different : text ≠ other) {default : Json}
    (same : (manifest.getD key default).equal (.str text) = true) (absent : default ≠ .str text)
    : (manifest.get key).equal (.str other) = false := by
  have value := Json.eq_of_equal_str same
  simp only [Dict.getD, Dict.get] at value ⊢
  cases found : manifest.lookup key with
  | none =>
    rw [found] at value
    exact absurd value absent
  | some read =>
    rw [found] at value
    subst value
    simp [different]

/-- Only an asked-for recovery layout stands in for the live one. -/
theorem checkOwnership_layout [Builtins] {options : LoadOptions} {selected : Option String}
    {blobName : String} {layout : Bool}
    (returned : checkOwnership setting options selected manifest blobName = .ok layout)
    (live : options.allowMaterializationLayout = false ∨
      (manifest.get "weight_source").equal (.str weightSourceSafetensors) = false) :
    layout = false := by
  simp only [checkOwnership, bind_eq_ok, pure_eq_ok] at returned
  rcases returned with ⟨_, _, restored, restoredEq, _, _, _, _, rfl⟩
  rcases live with plain | other
  · simp [plain]
  · have never : restored = false := by
      simp only [restoredProcessTemplateRecovery,
        restoredProcessTemplateRecoveryManifestMatches, other, Bool.and_false] at restoredEq
      split at restoredEq <;> cases restoredEq <;> rfl
    simp [never]

/-- Whatever the files hold and whatever fails, a returned manifest is good. -/
theorem loadManifest_triple [Builtins] (nature : Nature) (setting : Setting)
    (options : LoadOptions) :
    Program.Triple (fun _ => True) (fun _ => True) (fun _ => True)
      (loadManifest nature setting options)
      (fun manifest _ => AcceptedManifest setting options manifest) (fun _ _ => True) := by
  refine .bind .trivial fun selected => ?_
  refine .bind .trivial fun _ => ?_
  refine .bind .trivial fun document => ?_
  refine .bind .trivial fun manifest => ?_
  refine .bind .trivial fun source => ?_
  refine .bind .trivial fun _ => ?_
  refine .bind .trivial fun blobPath => ?_
  refine .bindExcept (fun _ _ _ _ => trivial) fun layout owned => ?_
  refine .bindExcept (fun _ _ _ _ => trivial) fun entries listed => ?_
  split
  · next splitNative =>
      refine .bind .trivial fun blobStat => ?_
      refine .bind .trivial fun residualPath => ?_
      refine .bind .trivial fun residualStat => ?_
      refine .bindExcept (fun _ _ _ _ => trivial) fun _ validated => ?_
      refine .pure fun _ _ => ⟨fun _ => ?_, fun recovery => ?_⟩
      · rcases validateSplitNative_spec validated with ⟨model, residual, extents, tiles⟩
        refine ⟨model, residual, extents, fun live => ?_⟩
        have notRecovery :
            (manifest.get "weight_source").equal (.str weightSourceSafetensors) = false :=
          equal_of_getD (by decide) splitNative
            (by simp [weightSourceBlob, weightSourceSplitNative])
        rw [live, checkOwnership_layout owned (.inr notRecovery)] at listed
        exact tiles.covers listed
      · have both := (Json.eq_of_equal_str splitNative).symm.trans (Json.eq_of_equal_str recovery)
        simp [weightSourceSplitNative, weightSourceSafetensors] at both
  · next notSplitNative =>
      split
      · next recovery =>
          refine .bind .trivial fun blobStat => ?_
          refine .bindExcept (fun _ _ _ _ => trivial) fun _ validated => ?_
          refine .pure fun _ _ =>
            ⟨fun splitNative => absurd splitNative notSplitNative, fun _ plain => ?_⟩
          rcases validateSafetensors_spec validated with ⟨model, residual, extents, tiles⟩
          refine ⟨model, residual, extents, fun live => ?_⟩
          rw [live, checkOwnership_layout owned (.inl plain)] at listed
          exact tiles.covers listed
      · next notRecovery =>
          refine .bind .trivial fun blobStat => ?_
          refine .bindExcept (fun _ _ _ _ => trivial) fun _ validated => ?_
          exact .pure fun _ _ =>
            ⟨fun splitNative => absurd splitNative notSplitNative,
              fun recovery => absurd recovery notRecovery⟩

/-- Every manifest `_load_manifest` returns, in any world and under any failures,
reads ranges of its files which exist and are apart; accepted for the live
layout, its extents cover every weight byte once. -/
theorem loadManifest_accepts [Builtins] (nature : Nature) (setting : Setting)
    (options : LoadOptions) (world : World) (schedule : List (Label → Option PyError))
    {manifest : Dict}
    (returned : (loadManifest nature setting options world schedule).result = .ok manifest) :
    AcceptedManifest setting options manifest := by
  have outcome := (loadManifest_triple nature setting options world schedule trivial
    fun _ _ => trivial).2.2
  rw [returned] at outcome
  exact outcome

/-! ## Accepted manifests at work -/

def modelExtentExample : Dict :=
  [("ptr", .int 4096), ("size", .int 4096), ("allocation_ptr", .int 4096), ("offset", .int 0),
    ("crc32", .str "00000000"),
    ("sha256", .str "00112233445566778899aabbccddeeff00112233445566778899aabbccddeeff")]

def residualExtentExample : Dict :=
  [("ptr", .int 8192), ("size", .int 4096), ("allocation_ptr", .int 4096), ("offset", .int 0),
    ("crc32", .str "00000000")]

def nativeManifestExample (residualBlob : String) : Dict :=
  [("format", .int 3), ("kind", .str "vllm-live-process-cumem"),
    ("identity", .str "worker-id-w0-host-h0-rank-0-pid-7"), ("pid", .int 7), ("rank", .int 0),
    ("worker_id", .str "w0"), ("capture_id", .str ""),
    ("weight_source", .str "split-native"), ("blob", .str "model-weights.pack"),
    ("model_blob", .str "model-weights.pack"), ("model_blob_bytes", .int 4096),
    ("residual_blob", .str residualBlob), ("residual_blob_bytes", .int 4096),
    ("allocation_bytes", .int 8192), ("model_weight_bytes", .int 4096),
    ("residual_bytes", .int 4096),
    ("model_weight_extents", .arr [.obj modelExtentExample]),
    ("residual_extents", .arr [.obj residualExtentExample]),
    ("blob_reused", .bool false), ("verify_mode", .str "inline"), ("checksum", .str "crc32"),
    ("preverified", .bool false), ("portable_model_payload", .bool true),
    ("portable_residual_blob", .bool true),
    ("entries", .arr [.obj [("ptr", .int 4096), ("size", .int 8192), ("tag", .str "weights")]])]

def fileExample (size : Int) (meaning : Meaning) : File :=
  ⟨size, fun _ => 0, meaning, 0, 1, 0, 0⟩

def nativeWorldExample (residualBlob : String) : World :=
  World.initial (Backend.initial weightSourceBlob true) (fun _ => 0) fun path =>
    if path = .snapshot activationProviderName then some (fileExample 6 (.text "native"))
    else if path = .snapshot nativeManifestName then
      some (fileExample 100 (.document (.obj (nativeManifestExample residualBlob))))
    else if path = .snapshot modelPayloadName then some (fileExample 4096 .raw)
    else if path = .snapshot "weights.blob" then some (fileExample 4096 .raw)
    else none

theorem loadManifest_accepts_example :
    let _ := Builtins.decimal
    AcceptedManifest (Setting.oneWeight 4096 8192 (by decide) (by decide)) LoadOptions.plain
      (nativeManifestExample "weights.blob") :=
  let _ := Builtins.decimal
  loadManifest_accepts Nature.plain (Setting.oneWeight 4096 8192 (by decide) (by decide))
    LoadOptions.plain (nativeWorldExample "weights.blob") [] rfl

/-- At startup a manifest is accepted in its own address space, so its extents
need not cover the live weights. A manifest whose residual blob is the model
pack is accepted although both extents then read the same bytes of one file. -/
theorem loadManifest_exceptions :
    let _ := Builtins.decimal
    let elsewhere := Setting.oneWeight 20480 8192 (by decide) (by decide)
    let here := Setting.oneWeight 4096 8192 (by decide) (by decide)
    ((loadManifest Nature.plain elsewhere ⟨false, false, true⟩
        (nativeWorldExample "weights.blob") []).result =
          .ok (nativeManifestExample "weights.blob") ∧
      ∀ ranges, mapEach extentRange [modelExtentExample, residualExtentExample] =
        .ok ranges → ¬CoversOnce elsewhere.weights ranges) ∧
    ((loadManifest Nature.plain here LoadOptions.plain
        (nativeWorldExample "model-weights.pack") []).result =
          .ok (nativeManifestExample "model-weights.pack") ∧
      fileRange modelExtentExample = .ok (0, 4096) ∧
      fileRange residualExtentExample = .ok (0, 4096) ∧
      ¬Apart ((0 : Int), (4096 : Int)) (0, 4096)) := by
  refine ⟨⟨rfl, ?_⟩, rfl, rfl, rfl, ?_⟩
  · intro ranges read covers
    have equal := Except.ok.inj read
    have missed := covers 20480
    rw [← equal] at missed
    exact absurd missed (by decide)
  · intro apart
    exact apart 0 (by decide)

end Coldsnap.DiskBackend
