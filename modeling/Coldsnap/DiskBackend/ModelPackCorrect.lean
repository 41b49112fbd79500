import Coldsnap.DiskBackend.WritersCorrect

/-! # The model pack depends on the model bytes alone

Two captures of extents with the same sizes and contents leave the same bytes
in `model-weights.pack`, wherever the extents lay and in whatever order and
chunks they were read.
-/

namespace Coldsnap.DiskBackend

open Python Program Crc32 Chunks List Bytes Regime Hashing

variable {regime : Regime} {nature : Nature} {setting : Setting}
variable {touched : Path → Prop} {start : World}

/-! ## Fingerprints -/

def Extent.fingerprinted [Hashing] (memory : Int → UInt8) (extent : Extent) : Extent :=
  { extent with sha256 := some (Hashing.sha256 (extent.bytes memory)) }

theorem fingerprint_keeps [Hashing] {extent : Extent} (size : 0 < extent.size)
    (reach : regime.Reaches setting start.device extent.ptr extent.size)
    (fingerprinted : List Extent) :
    regime.Within touched start (fun _ => True)
      (fingerprint setting ⟨0, setting.chunkBytes⟩ fingerprinted extent)
      fun result _ => result = fingerprinted ++ [extent.fingerprinted start.device.memory] := by
  refine .bind (.starting (fun _ _ _ => rfl) (.chunks
    setting.chunk_aligned.1 (fun digest copied _ =>
      digest = slice start.device.memory extent.ptr copied) ?_ [])) fun bytes => ?_
  · intro digest copied count piece
    have inside := piece.inside
    have reachChunk : regime.Reaches setting start.device (extent.ptr + copied) count :=
      reach.imp_right fun whole => accessible_part whole (by omega) (by omega)
    refine .starting (fun _ _ fed => ⟨fed, trivial⟩) (.assuming fun fed => ?_)
    refine .bind (copyToHost_keeps ofFiles_true ⟨piece.positive, piece.bounded⟩
      reachChunk) fun _ => ?_
    refine .bind stageBytes_keeps fun view => .assuming fun viewed => ?_
    exact .pure fun _ _ _ => by rw [fed, viewed, slice_append]
  · exact .pure fun _ _ fed => by rw [fed]; rfl

variable {extents : List Extent}

def Extent.canonicalKey (extent : Extent) : String ×ₗ Int :=
  toLex (extent.sha256.getD "", extent.size)

def canonicalExtents [Hashing] (memory : Int → UInt8) (extents : List Extent) : List Extent :=
  canonicalOrder (extents.map (Extent.fingerprinted memory))

theorem mem_canonicalExtents [Hashing] {memory : Int → UInt8} {extent : Extent}
    (member : extent ∈ canonicalExtents memory extents) :
    ∃ original ∈ extents, extent = original.fingerprinted memory := by
  have listed := (sortedOn_perm _ _).mem_iff.mp member
  obtain ⟨original, originalMember, rfl⟩ := mem_map.mp listed
  exact ⟨original, originalMember, rfl⟩

structure PackOf [Hashing] (memory : Int → UInt8) (extents : List Extent) (path : Path)
    (pack : WrittenBlob × Stat) (world : World) : Prop where
  blob : BlobOf memory (canonicalExtents memory extents) true pack.1
  named : pack.1.path = path
  written : Written path (packedExtentBytes (canonicalExtents memory extents))
    (packed memory (canonicalExtents memory extents)) world
  stat : ∃ file, world.files path = some file ∧ pack.2 = file.stat

section

variable (positive : ∀ extent ∈ extents, extent.Positive)
variable (reach : regime.ReachesAll setting start.device extents)

include positive reach

theorem fingerprints_keep [Hashing] :
    regime.Within touched start (fun _ => True)
      (Program.foldEach (fingerprint setting ⟨0, setting.chunkBytes⟩) [] extents)
      fun result _ => result = extents.map (Extent.fingerprinted start.device.memory) := by
  refine .starting (fun _ _ _ => rfl) (.foldSeen (fun fingerprinted seen _ =>
    fingerprinted = seen.map (Extent.fingerprinted start.device.memory)) ?_ [])
  intro fingerprinted seen extent items split
  refine .starting (fun _ _ fed => ⟨fed, trivial⟩) (.assuming fun fed => ?_)
  have member : extent ∈ extents := by simp [split]
  refine .ending (fun result _ _ ends => ?_)
    (fingerprint_keeps (positive extent member) (reach extent member) fingerprinted)
  rw [ends, fed, map_append]
  rfl

theorem writeModelPack_keeps [Hashing] (permits : regime.allowed) {path : Path}
    (inside : touched path) (insideTemporary : touched path.temporary) :
    regime.Within touched start (fun _ => True)
      (writeModelPack nature setting extents path) (PackOf start.device.memory extents path) := by
  let canonical := canonicalExtents start.device.memory extents
  let stored := Written path (packedExtentBytes canonical) (packed start.device.memory canonical)
  have canonicalPositive : ∀ extent ∈ canonical, extent.Positive := by
    intro extent member
    obtain ⟨original, listed, rfl⟩ := mem_canonicalExtents member
    exact positive original listed
  have canonicalReach : regime.ReachesAll setting start.device canonical := by
    intro extent member
    obtain ⟨original, listed, rfl⟩ := mem_canonicalExtents member
    exact reach original listed
  refine .bind (hostStage_keeps ofFiles_true) fun stage =>
    .assuming fun equal => ?_
  subst equal
  refine .bind (fingerprints_keep positive reach) fun fingerprinted => ?_
  refine .starting (fun _ _ fed => ⟨fed, trivial⟩) (.assuming fun fed => ?_)
  subst fed
  refine .bind (writeExtentBlob_keeps permits inside insideTemporary canonicalPositive
    canonicalReach) fun written => .assuming fun outcome => ?_
  refine .starting (fun _ _ starts => starts.1) ?_
  have ofFiles : OfFiles stored := written_ofFiles path _ _
  have validates : regime.Within touched start stored
      (validatePayload path ("sha256:" ++ written.sha256) written.bytes) fun _ => stored := by
    refine ask_keeps (fun _ holds => holds.ticked) fun world _ starts => ?_
    cases world.files path with
    | none => exact permits
    | some file =>
      simp only [Checked.require]
      split
      · exact ofFiles world _ rfl starts
      · exact permits
  refine .bind (.onlyIf (fun _ => validates) fun _ _ _ => id) fun _ => ?_
  refine .bind statIdentity_keeps fun stat => .pure fun world _ ends => ?_
  exact ⟨outcome.1, outcome.2.1, ends.1, ends.2⟩

theorem writeModelPayload_keeps [Hashing] (permits : regime.allowed) {path manifestPath : Path}
    (inside : touched path) (insideTemporary : touched path.temporary)
    (insideManifest : touched manifestPath)
    (insideManifestTemporary : touched manifestPath.temporary)
    (apart : path ≠ manifestPath ∧ path ≠ manifestPath.temporary) {allocationBytes : Int}
    {entries : List Json} {nativeResidual : Option (WrittenBlob × List Extent)} :
    regime.Within touched start (fun _ => True)
      (writeModelPayload nature setting extents path manifestPath allocationBytes entries
        nativeResidual)
      fun payload world => ∃ pack, PackOf start.device.memory extents path pack world ∧
        payload = payloadRecord pack.1 manifestPath pack.2 ∧
        ∀ residual ∈ nativeResidual, ∃ generation,
          logicalBytes pack.1.extents + logicalBytes residual.2 = allocationBytes ∧
          residual.2 ≠ [] ∧
          Document manifestPath (.obj (nativeManifestRecord setting generation pack.1 residual.1
            pack.2 residual.2 allocationBytes entries
            start.backend.nativeModelExecutionState)) world := by
  refine .bind (writeModelPack_keeps positive reach permits inside insideTemporary) fun pack => ?_
  have away : AwayFrom (fun other => other = manifestPath ∨ other = manifestPath.temporary)
      (PackOf start.device.memory extents path pack) := by
    intro world other same holds
    have kept := same path (by simp [apart])
    refine ⟨holds.blob, holds.named, ?_, ?_⟩
    · exact written_of_files_eq kept holds.written
    · rw [kept]
      exact holds.stat
  cases nativeResidual with
  | none => exact .pure fun world _ ends => ⟨pack, ends, rfl, by simp⟩
  | some residual =>
    refine .bind (isFile_keeps away.ofFiles) fun present => ?_
    refine .bindRequire (fun _ _ _ _ => permits) fun listed => ?_
    refine .bindRequire (fun _ _ _ _ => permits) fun covered => ?_
    refine .bindRead fun generation => ?_
    refine .bindRead fun executionState => ?_
    refine .starting (fun world holds starts =>
      (⟨starts.2.symm.trans (by rw [holds.backend]), starts.1.1⟩ :
        executionState = start.backend.nativeModelExecutionState ∧
          PackOf start.device.memory extents path pack world)) (.assuming fun same => ?_)
    subst same
    refine .bind (atomicJson_keeps insideManifest insideManifestTemporary away)
      fun _ => .pure fun world _ ends => ⟨pack, ends.1, rfl, ?_⟩
    intro other member
    cases Option.mem_some.mp member
    refine ⟨generation, by simpa using covered, ?_, ends.2⟩
    intro empty
    simp [empty] at listed

end

/-! ## Two captures -/

def extentContents (memory : Int → UInt8) (extents : List Extent) : List (Int × List UInt8) :=
  extents.map fun extent => (extent.size, extent.bytes memory)

def contentKey [Hashing] (content : Int × List UInt8) : String ×ₗ Int :=
  toLex (sha256 content.2, content.1)

variable {leftMemory rightMemory : Int → UInt8} {left right : List Extent}

/-- Keys which determine the contents determine the packed bytes. -/
theorem packed_of_keys [Hashing] (injective : ∀ first ∈ extentContents leftMemory left,
      ∀ second ∈ extentContents rightMemory right,
      sha256 first.2 = sha256 second.2 → first.2 = second.2)
    (same : (extentContents leftMemory left).map contentKey =
      (extentContents rightMemory right).map contentKey) :
    packed leftMemory left = packed rightMemory right := by
  induction left generalizing right with
  | nil =>
    cases right with
    | nil => simp only [packed, flatMap_nil]
    | cons _ _ => cases same
  | cons first left induction =>
    cases right with
    | nil => cases same
    | cons second right =>
      simp only [extentContents, map_cons, cons.injEq, contentKey,
        EmbeddingLike.apply_eq_iff_eq, Prod.mk.injEq] at same
      obtain ⟨⟨digests, _⟩, tail⟩ := same
      simp only [extentContents, map_cons, forall_mem_cons] at injective
      have bytes := injective.1.1 digests
      have rest := induction (fun a aMember b bMember =>
        (injective.2 a aMember).2 b bMember) tail
      rw [packed_cons, packed_cons, rest, bytes]

theorem canonicalExtents_contents [Hashing] (memory : Int → UInt8) (extents : List Extent) :
    (extentContents memory (canonicalExtents memory extents)).Perm
      (extentContents memory extents) := by
  have perm := (sortedOn_perm Extent.canonicalKey (extents.map (Extent.fingerprinted memory))).map
      fun extent => (extent.size, extent.bytes memory)
  rw [map_map] at perm
  exact perm

/-- In canonical order the keys are sorted, so they depend on the multiset of
the contents alone. -/
theorem canonicalExtents_keys [Hashing]
    (same : (extentContents leftMemory left).Perm (extentContents rightMemory right)) :
    (extentContents leftMemory (canonicalExtents leftMemory left)).map contentKey =
      (extentContents rightMemory (canonicalExtents rightMemory right)).map contentKey := by
  have fingerprintKeys : ∀ (memory : Int → UInt8) (extents : List Extent),
      (extents.map (Extent.fingerprinted memory)).map Extent.canonicalKey =
        (extentContents memory extents).map contentKey := by
    intro memory extents
    simp only [extentContents, map_map]
    rfl
  have canonicalKeys : ∀ (memory : Int → UInt8) (extents : List Extent),
      (extentContents memory (canonicalExtents memory extents)).map contentKey =
        (canonicalExtents memory extents).map Extent.canonicalKey := by
    intro memory extents
    simp only [extentContents, map_map]
    refine map_congr_left fun extent member => ?_
    obtain ⟨original, _, rfl⟩ := mem_canonicalExtents member
    rfl
  rw [canonicalKeys, canonicalKeys]
  refine sortedOn_keys ?_
  rw [fingerprintKeys, fingerprintKeys]
  exact same.map contentKey

/-- One call of `_write_model_payload`: the worker, its world, the exceptions
which strike it, and the model extents. -/
structure ModelCapture where
  nature : Nature
  setting : Setting
  world : World
  schedule : List (Label → Option PyError)
  extents : List Extent
  allocationBytes : Int
  entries : List Json
  nativeResidual : Option (WrittenBlob × List Extent)
  positive : ∀ extent ∈ extents, extent.Positive

namespace ModelCapture

def packPath : Path := .snapshot modelPayloadName

def manifestPath : Path := .snapshot nativeManifestName

def run [Hashing] (call : ModelCapture) : Run Label World PyError Dict :=
  writeModelPayload call.nature call.setting call.extents packPath manifestPath
    call.allocationBytes call.entries call.nativeResidual call.world call.schedule

def memory (call : ModelCapture) : Int → UInt8 := call.world.device.memory

def contents (call : ModelCapture) : List (Int × List UInt8) :=
  extentContents call.memory call.extents

/-- What identifies an extent: everything but what the writer adds to it. -/
def core (extent : Extent) : Int × Int × Int × Option String :=
  (extent.ptr, extent.size, extent.allocationPtr, extent.semanticId)

/-- The extents which a document records are the captured ones, and the offset of
each of them points at its own bytes in the pack. -/
def OffsetsPoint (call : ModelCapture) (pack : File) (document : Dict) : Prop :=
  ∃ recorded : List Extent,
    document.get "model_weight_extents" = .arr (recorded.map fun extent => .obj extent.toDict) ∧
    (recorded.map core).Perm (call.extents.map core) ∧
    ∀ extent ∈ recorded,
      slice pack.byte extent.offset extent.size.toNat = extent.bytes call.memory ∧
      0 ≤ extent.offset ∧ extent.offset + extent.size ≤ pack.size

structure Left [Hashing] (call : ModelCapture) (record : Dict) (pack : File) : Prop where
  present : call.run.state.files packPath = some pack
  contents : pack.contents = packed call.memory (canonicalExtents call.memory call.extents)
  digest : record.get "sha256" = .str ("sha256:" ++ sha256 pack.contents)
  offsets : call.nativeResidual.isSome → ∃ document,
    Document manifestPath (.obj document) call.run.state ∧ call.OffsetsPoint pack document

theorem returned_left [Hashing] {call : ModelCapture} {record : Dict}
    (returned : call.run.result = .ok record) : ∃ pack, call.Left record pack := by
  have contract : wild.Keeps (wild.Frame (fun _ => True) call.world)
      (fun _ => True) (writeModelPayload call.nature call.setting call.extents packPath
        manifestPath call.allocationBytes call.entries call.nativeResidual) _ :=
    writeModelPayload_keeps call.positive (fun _ _ => .inl trivial) trivial trivial trivial trivial
      trivial (by decide)
  obtain ⟨_, pack, (packOf : PackOf call.memory call.extents packPath pack _), recordEq,
    manifests⟩ := contract.returned (Frame.refl _ _ _) trivial (fun _ _ => trivial) returned
  obtain ⟨file, present, size, stored⟩ := packOf.written
  have positive : ∀ extent ∈ canonicalExtents call.memory call.extents, extent.Positive := by
    intro extent member
    obtain ⟨original, listed, rfl⟩ := mem_canonicalExtents member
    exact call.positive original listed
  have length := packed_length call.memory positive
  have contents : file.contents =
      packed call.memory (canonicalExtents call.memory call.extents) := by
    have whole : file.size.toNat =
        (packed call.memory (canonicalExtents call.memory call.extents)).length := by
      rw [size]
      exact (congrArg Int.toNat length).symm
    rw [File.contents, whole]
    exact stored
  refine ⟨file, present, contents, ?_, fun exported => ?_⟩
  · rw [recordEq, contents]
    exact congrArg (fun digest => Json.str ("sha256:" ++ digest)) packOf.blob.sha256
  · obtain ⟨residual, residualEq⟩ := Option.isSome_iff_exists.mp exported
    obtain ⟨generation, _, _, document⟩ := manifests residual residualEq
    refine ⟨_, document, pack.1.extents, rfl, ?_, ?_⟩
    · rw [packOf.blob.recorded, map_map]
      refine (Perm.of_eq (assignOffsets_map (fun _ _ => rfl) 0 _)).trans ?_
      refine ((sortedOn_perm _ _).map _).trans ?_
      rw [map_map]
      exact .refl _
    · intro extent member
      rw [packOf.blob.recorded] at member
      obtain ⟨placed, placedMember, rfl⟩ := mem_map.mp member
      rw [size]
      rw [← packed_assignOffsets call.memory 0] at stored
      rw [← packedExtentBytes_assignOffsets 0]
      have read := (placed_assignOffsets positive).slice stored placedMember
      exact read

end ModelCapture

/-- Two captures of model extents with the same sizes and contents leave packs
with the same bytes and record the same digest, which is the one of the file;
and every recorded offset points at the bytes of its extent. -/
theorem writeModelPayload_canonical [Hashing] (left right : ModelCapture)
    {leftRecord rightRecord : Dict} (leftReturned : left.run.result = .ok leftRecord)
    (rightReturned : right.run.result = .ok rightRecord) (same : left.contents.Perm right.contents)
    (injective : ∀ first ∈ left.contents, ∀ second ∈ left.contents,
      sha256 first.2 = sha256 second.2 → first.2 = second.2) :
    ∃ leftPack rightPack : File,
      left.run.state.files ModelCapture.packPath = some leftPack ∧
      right.run.state.files ModelCapture.packPath = some rightPack ∧
      leftPack.contents = rightPack.contents ∧
      leftRecord.get "sha256" = rightRecord.get "sha256" ∧
      leftRecord.get "sha256" = .str ("sha256:" ++ sha256 leftPack.contents) ∧
      (left.nativeResidual.isSome → ∃ document,
        Document ModelCapture.manifestPath (.obj document) left.run.state ∧
        left.OffsetsPoint leftPack document) ∧
      (right.nativeResidual.isSome → ∃ document,
        Document ModelCapture.manifestPath (.obj document) right.run.state ∧
        right.OffsetsPoint rightPack document) := by
  obtain ⟨leftPack, leftLeft⟩ := ModelCapture.returned_left leftReturned
  obtain ⟨rightPack, rightLeft⟩ := ModelCapture.returned_left rightReturned
  have equal : leftPack.contents = rightPack.contents := by
    rw [leftLeft.contents, rightLeft.contents]
    refine packed_of_keys (fun first firstMember second secondMember => ?_)
      (canonicalExtents_keys same)
    refine injective first ((canonicalExtents_contents _ _).mem_iff.mp firstMember) second ?_
    exact same.mem_iff.mpr ((canonicalExtents_contents _ _).mem_iff.mp secondMember)
  refine ⟨leftPack, rightPack, leftLeft.present, rightLeft.present, equal, ?_,
    leftLeft.digest, leftLeft.offsets, rightLeft.offsets⟩
  rw [leftLeft.digest, rightLeft.digest, equal]

/-! ### An instance -/

namespace ModelCapture

def forward : ModelCapture where
  nature := { Nature.plain with transfer := fun _ => 65536 }
  setting := Setting.oneWeight 4096 64 page_positive (by decide)
  world := World.initial (Backend.initial weightSourceSafetensors false)
    (fun address => UInt8.ofNat (address - 4096).toNat)
    fun path => if path = .snapshot "weights.blob" then some (emptyFile 0) else none
  schedule := []
  extents := [{ ptr := 4098, size := 3, allocationPtr := 4096 },
    { ptr := 4104, size := 2, allocationPtr := 4096 }]
  allocationBytes := 64
  entries := []
  nativeResidual := some (⟨.snapshot "weights.blob", 4096, ⟨0, 0, 4096, 0, 0⟩, [], false, "",
    false, ""⟩, [{ ptr := 4106, size := 59, allocationPtr := 4096 }])
  positive := by simp [Extent.Positive]

def backward : ModelCapture where
  nature := { Nature.plain with transfer := fun _ => 65536 }
  setting := Setting.oneWeight 8192 32 (by decide) (by decide)
  world := World.initial (Backend.initial weightSourceSafetensors false)
    (fun address => UInt8.ofNat (if address < 8202 then address - 8192 + 8
      else address - 8208 + 2).toNat) fun _ => none
  schedule := []
  extents := [{ ptr := 8192, size := 2, allocationPtr := 8192 },
    { ptr := 8208, size := 3, allocationPtr := 8192 }]
  allocationBytes := 0
  entries := []
  nativeResidual := none
  positive := by simp [Extent.Positive]

end ModelCapture

theorem ModelCapture.forward_contents :
    forward.contents = [(3, [2, 3, 4]), (2, [8, 9])] := by decide +kernel

theorem writeModelPayload_canonical_example :
    ∃ leftPack rightPack : File,
      (@ModelCapture.run standard .forward).state.files ModelCapture.packPath = some leftPack ∧
      (@ModelCapture.run standard .backward).state.files ModelCapture.packPath = some rightPack ∧
      leftPack.contents = rightPack.contents := by
  have forwardReturns : (@ModelCapture.run standard .forward).result.isOk = true := by
    decide +kernel
  have backwardReturns : (@ModelCapture.run standard .backward).result.isOk = true := by
    decide +kernel
  obtain ⟨forwardRecord, forwardReturned⟩ := exists_of_isOk forwardReturns
  obtain ⟨backwardRecord, backwardReturned⟩ := exists_of_isOk backwardReturns
  have perm : ModelCapture.forward.contents.Perm ModelCapture.backward.contents := by
    decide +kernel
  have differ : Sha256.sha256 [2, 3, 4] ≠ Sha256.sha256 [8, 9] := by decide +kernel
  obtain ⟨leftPack, rightPack, left, right, same, _⟩ := @writeModelPayload_canonical
    standard .forward .backward _ _ forwardReturned backwardReturned perm (by
      intro first firstMember second secondMember equal
      rw [ModelCapture.forward_contents] at firstMember secondMember
      simp only [mem_cons, not_mem_nil, or_false] at firstMember secondMember
      rcases firstMember with rfl | rfl <;> rcases secondMember with rfl | rfl
      · rfl
      · exact absurd equal differ
      · exact absurd equal.symm differ
      · rfl)
  exact ⟨leftPack, rightPack, left, right, same⟩

end Coldsnap.DiskBackend
