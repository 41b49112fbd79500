import Coldsnap.Artifact.Frames
import Coldsnap.Artifact.Grouping

/-! # What a capture prepares

Before the renames the temporary blob holds the bytes of the storages at their
offsets, and the temporary manifest describes it.
-/

namespace Coldsnap.Artifact

open Python Program Crc32 Sha256 Chunks List Bytes

/-! ## Layout -/

theorem le_align (value : Nat) : value ≤ align value := by
  unfold align alignment
  omega

theorem align_lt (value : Nat) : align value < value + 4096 := by
  unfold align alignment
  omega

variable {groups : List Group}

theorem le_layoutEnd : ∀ {position : Nat}, position ≤ layoutEnd position groups := by
  induction groups with
  | nil => exact Nat.le_refl _
  | cons group groups induction =>
    intro position
    have rest := @induction (align position + group.tensor.storage.nbytes)
    have aligned := le_align position
    rw [layoutEnd]
    omega

theorem mem_layoutFrom {item : Group × Nat} : ∀ {position : Nat},
    item ∈ layoutFrom position groups → item.1 ∈ groups := by
  induction groups with
  | nil => intro position member; cases member
  | cons group groups induction =>
    intro position member
    rcases mem_cons.mp member with rfl | later
    · exact mem_cons_self
    · exact mem_cons_of_mem _ (induction later)

def Storage.view (memory : Int → UInt8) (storage : Storage) : List UInt8 :=
  slice memory storage.pointer storage.nbytes

variable (memory : Int → UInt8)

@[simp] theorem Storage.view_length (storage : Storage) :
    (storage.view memory).length = storage.nbytes := slice_length _ _ _

def entryOf (memory : Int → UInt8) (item : Group × Nat) : Dict :=
  let view := item.1.tensor.storage.view memory
  entryRecord item.2 item.1.tensor.storage.nbytes (hex8 (crc32 view 0)) (sha256 view) item.1.refs

def blobOf (memory : Int → UInt8) (groups : List Group) : List UInt8 :=
  nativeBytes memory 0 (layoutFrom 0 groups)

def entriesOf (memory : Int → UInt8) (groups : List Group) : List Dict :=
  (layoutFrom 0 groups).map (entryOf memory)

theorem nativeBytes_length : ∀ {position : Nat},
    position + (nativeBytes memory position (layoutFrom position groups)).length =
      layoutEnd position groups := by
  induction groups with
  | nil => intro position; rfl
  | cons group groups induction =>
    intro position
    have rest := @induction (align position + group.tensor.storage.nbytes)
    have aligned := le_align position
    simp only [layoutFrom, nativeBytes, layoutEnd, length_append, length_replicate, slice_length]
    omega

theorem blobOf_length (groups : List Group) :
    (blobOf memory groups).length = layoutEnd 0 groups := by
  have length := @nativeBytes_length groups memory 0
  rwa [Nat.zero_add] at length

/-! ## The branch through the host -/

variable {regime : Regime} {setting : Setting} {start : World}

/-- The state of the loop over one storage after `copied` bytes. -/
structure Copied (start : World) (pointer : Int) (base : List UInt8) (copied : Nat)
    (progress : Progress) : Prop where
  position : progress.position = base.length + copied
  storage : progress.storage = slice start.memory pointer copied
  blob : progress.blob = base ++ slice start.memory pointer copied
  crc : progress.crc = crc32 (slice start.memory pointer copied) 0

variable {pointer : Int} {progress : Progress} {base : List UInt8} {copied : Nat}

theorem Copied.length (holds : Copied start pointer base copied progress) :
    progress.blob.length = progress.position := by
  rw [holds.blob, holds.position, length_append, slice_length]

theorem copyToHost_keeps {count : Nat} {before : World → Prop} :
    regime.Keeps (Frame start) before (copyToHost pointer count) fun view world =>
      view = slice start.memory pointer count ∧ before world :=
  ask_keeps fun world holds starts => ⟨by rw [holds.memory], starts⟩

variable {total stageSize : Nat}

theorem captureChunk_keeps {nbytes : Nat} (fits : base.length + nbytes ≤ total)
    (small : stageSize ≤ transferLimit) {count : Nat} (piece : Piece stageSize nbytes copied count)
    (before : Copied start pointer base copied progress) :
    regime.Keeps (Frame start) (Written .temporaryBlob total progress.blob)
      (captureChunk setting pointer progress (copied, count)) fun next world =>
        Copied start pointer base (copied + count) next ∧
          Written .temporaryBlob total next.blob world := by
  apply Contract.bindKnown copyToHost_keeps
  have inside := piece.inside
  have bounded := piece.bounded
  have room : progress.blob.length + (slice start.memory (pointer + copied) count).length ≤
      total := by
    rw [before.length, before.position, slice_length]
    omega
  have limit : (slice start.memory (pointer + copied) count).length ≤ transferLimit := by
    rw [slice_length]
    omega
  rw [← before.length]
  apply Contract.bindKnown (write_keeps rfl room limit)
  apply Contract.pure
  intro world _ written
  have grown := slice_append start.memory pointer copied count
  refine ⟨⟨?_, ?_, ?_, ?_⟩, written⟩
  · simp only [before.length, before.position, slice_length]
    omega
  · simp [before.storage, grown]
  · simp [before.blob, grown]
  · simp [before.crc, grown, crc32_append]

theorem padding_keeps {offset : Nat} {captured : Captured}
    (length : captured.blob.length = captured.position) (ordered : captured.position ≤ offset)
    (near : offset < captured.position + 4096) (fits : offset ≤ total) :
    regime.Keeps (Frame start) (Written .temporaryBlob total captured.blob)
      (Program.onlyIf (offset ≠ captured.position) ((write setting .temporaryBlob captured.position
          (replicate (offset - captured.position) 0)).bind fun _ => pure ()))
      fun _ => Written .temporaryBlob total
        (captured.blob ++ replicate (offset - captured.position) 0) := by
  apply Contract.onlyIf
  · intro _
    rw [← length]
    have room : captured.blob.length + (replicate (offset - captured.blob.length)
        (0 : UInt8)).length ≤ total := by
      rw [length_replicate]
      omega
    have limit : (replicate (offset - captured.blob.length) (0 : UInt8)).length ≤
        transferLimit := by
      rw [length_replicate]
      unfold transferLimit
      omega
    apply Contract.bind (write_keeps rfl room limit)
    intro position
    exact .pure fun _ _ written => written.2
  · intro none world _ written
    have same : offset = captured.position := by simpa using none
    rw [same, Nat.sub_self, replicate_zero, append_nil]
    exact written

theorem captureStorage_keeps (positive : 0 < stageSize) (small : stageSize ≤ transferLimit)
    {captured : Captured} {group : Group} (length : captured.blob.length = captured.position)
    (fits : align captured.position + group.tensor.storage.nbytes ≤ total) :
    regime.Keeps (Frame start) (Written .temporaryBlob total captured.blob)
      (captureStorage setting stageSize captured (group, align captured.position))
      fun next world =>
        (next.entries = captured.entries ++
            [entryOf start.memory (group, align captured.position)] ∧
          next.position = align captured.position + group.tensor.storage.nbytes ∧
          next.blob = captured.blob ++
            replicate (align captured.position - captured.position) 0 ++
              group.tensor.storage.view start.memory) ∧
        Written .temporaryBlob total next.blob world := by
  have ordered := le_align captured.position
  have near := align_lt captured.position
  apply Contract.bind (padding_keeps length ordered near (by omega))
  intro _
  let base := captured.blob ++ replicate (align captured.position - captured.position) 0
  have baseLength : base.length = align captured.position := by
    rw [length_append, length_replicate, length]
    omega
  have initially : Copied start group.tensor.storage.pointer base 0
      ⟨align captured.position, 0, [], base⟩ :=
    ⟨baseLength.symm, rfl, (append_nil _).symm, (crc32_nil 0).symm⟩
  apply Contract.bind (.starting (fun _ _ written => ⟨initially, written⟩)
    (.chunks positive (fun progress copied world =>
      Copied start group.tensor.storage.pointer base copied progress ∧
        Written .temporaryBlob total progress.blob world) _ _))
  rotate_left
  · intro progress copied count piece
    apply Contract.assuming
    intro before
    exact captureChunk_keeps (by rw [baseLength]; exact fits) small piece before
  intro progress
  apply Contract.assuming
  intro after
  apply Contract.pure
  intro world _ written
  refine ⟨⟨?_, rfl, after.blob⟩, written⟩
  simp [entryOf, Storage.view, after.crc, after.storage]

theorem captureStorages_keeps (positive : 0 < stageSize) (small : stageSize ≤ transferLimit) :
    ∀ captured : Captured, captured.blob.length = captured.position →
      layoutEnd captured.position groups ≤ total →
      regime.Keeps (Frame start) (Written .temporaryBlob total captured.blob)
        (Program.foldEach (captureStorage setting stageSize) captured
          (layoutFrom captured.position groups))
        fun final world =>
          (final.entries = captured.entries ++
              (layoutFrom captured.position groups).map (entryOf start.memory) ∧
            final.blob = captured.blob ++
              nativeBytes start.memory captured.position (layoutFrom captured.position groups)) ∧
          Written .temporaryBlob total final.blob world := by
  induction groups with
  | nil =>
    intro captured _ _
    apply Contract.pure
    exact fun world _ written => ⟨⟨(append_nil _).symm, (append_nil _).symm⟩, written⟩
  | cons group groups induction =>
    intro captured length fits
    rw [layoutEnd] at fits
    have behind := @le_layoutEnd groups (align captured.position + group.tensor.storage.nbytes)
    apply Contract.bind (captureStorage_keeps positive small length (by omega))
    intro next
    apply Contract.assuming
    rintro ⟨entries, position, blob⟩
    have ordered := le_align captured.position
    have nextLength : next.blob.length = next.position := by
      rw [blob, position]
      simp only [length_append, length_replicate, Storage.view_length, length]
      omega
    rw [← position] at fits ⊢
    apply Contract.ending _ (induction next nextLength fits)
    rintro final world _ ⟨⟨allEntries, allBlob⟩, written⟩
    refine ⟨⟨?_, ?_⟩, written⟩
    · rw [allEntries, entries, layoutFrom, ← position, append_assoc]
      rfl
    · rw [allBlob, blob, layoutFrom, nativeBytes, ← position]
      simp [Storage.view]

theorem allocateStage_keeps {frame before : World → Prop} :
    regime.Keeps frame before allocateStage fun _ => before := by
  apply catching_again
  · apply Triple.operation
    · intro world entry stop starts planned raises
      exact ⟨starts.1, starts, regime.tolerates planned raises⟩
    · exact fun world starts => ⟨starts.1, starts⟩
  · intro error _
    apply quiet_keeps.ending
    exact fun _ world _ starts => starts.1

theorem le_foldl_max {α : Type} [LinearOrder α] {sizes : List α} : ∀ {first : α},
    first ≤ sizes.foldl max first ∧ ∀ size ∈ sizes, size ≤ sizes.foldl max first := by
  induction sizes with
  | nil => exact fun {first} => ⟨le_refl _, nofun⟩
  | cons size sizes induction =>
    intro first
    have rest := @induction (max first size)
    refine ⟨le_trans (le_max_left _ _) rest.1, ?_⟩
    exact forall_mem_cons.mpr ⟨le_trans (le_max_right _ _) rest.1, rest.2⟩

def Captures (start : World) (groups : List Group) (result : List Dict × String)
    (world : World) : Prop :=
  result = (entriesOf start.memory groups, sha256 (blobOf start.memory groups)) ∧
    Written .temporaryBlob (layoutEnd 0 groups) (blobOf start.memory groups) world

theorem capturePython_keeps {chunkBytes : Nat} (chunk : 0 < chunkBytes)
    (small : chunkBytes ≤ transferLimit)
    (filled : ∃ group ∈ groups, 0 < group.tensor.storage.nbytes) :
    regime.Keeps (Frame start) (fun _ => True) (capturePython setting groups chunkBytes)
      (Captures start groups) := by
  have stage : 0 < min chunkBytes (largest groups) := by
    rcases filled with ⟨group, member, positive⟩
    have bound := (@le_foldl_max Nat _ (groups.map fun group => group.tensor.storage.nbytes) 0).2
      group.tensor.storage.nbytes (mem_map_of_mem member)
    unfold largest
    omega
  apply Contract.bind allocateStage_keeps
  intro _
  have created : ∀ world : World, True → Written .temporaryBlob 0 []
      (world.setFile .temporaryBlob (some ⟨0, fun _ => 0, none⟩)) :=
    fun world _ => ⟨_, World.setFile_same .., rfl, rfl⟩
  apply Contract.bind (create_keeps rfl created)
  intro _
  apply Contract.bind (preallocate_keeps rfl)
  intro _
  apply Contract.through fun final world =>
    (final.entries = [] ++ entriesOf start.memory groups ∧ final.blob = [] ++ blobOf start.memory
      groups) ∧ Written .temporaryBlob (layoutEnd 0 groups) final.blob world
  · exact captureStorages_keeps stage (by omega) ⟨[], 0, []⟩ rfl (Nat.le_refl _)
  intro final
  apply Contract.assuming
  rintro ⟨entries, blob⟩
  apply Contract.bind quiet_keeps
  intro _
  apply Contract.pure
  intro world _ written
  rw [nil_append] at entries blob
  rw [blob] at written
  exact ⟨by rw [entries, blob], written⟩

/-! ## The branch through a native transport -/

theorem slice_fileOf (bytes : List UInt8) : slice (fileOf bytes).byte 0 bytes.length = bytes := by
  apply ext_getElem
  · simp
  · intro index first second
    simp only [slice_length] at first
    simp [slice, fileOf, first]

theorem captureWithTransport_keeps {chunkBytes : Nat} (aligned : chunkBytes % alignment = 0)
    (placed : ∀ group ∈ groups, 0 < group.tensor.storage.pointer ∧
      0 < group.tensor.storage.nbytes) :
    regime.Keeps (Frame start) (fun _ => True) (captureWithTransport groups chunkBytes)
      (Captures start groups) := by
  have valid : ((layoutFrom 0 groups).all fun item => 0 < item.1.tensor.storage.pointer &&
      0 < item.1.tensor.storage.nbytes) = true := by
    rw [all_eq_true]
    intro item member
    have known := placed item.1 (mem_layoutFrom member)
    simp [known.1, known.2]
  apply Contract.bindPasses (by simpa using aligned)
  apply Contract.bindPasses valid
  apply Contract.through fun result world =>
    result = ((layoutFrom 0 groups).map fun item =>
        (hex8 (crc32 (item.1.tensor.storage.view start.memory) 0),
          sha256 (item.1.tensor.storage.view start.memory)),
      sha256 (blobOf start.memory groups),
      ((layoutFrom 0 groups).map fun item => item.1.tensor.storage.nbytes).sum,
      (blobOf start.memory groups).length) ∧
    Written .temporaryBlob (layoutEnd 0 groups) (blobOf start.memory groups) world
  · apply act_keeps
    intro world holds _
    refine ⟨holds.setFile rfl _, ?_, ?_⟩
    · rw [holds.memory]
      rfl
    · rw [holds.memory]
      exact ⟨_, World.setFile_same .., blobOf_length _ _, slice_fileOf _⟩
  rintro ⟨digests, blobSha256, bytes, fileBytes⟩
  apply Contract.assuming
  intro same
  cases same
  apply Contract.bindPasses (by simp [blobOf_length])
  apply Contract.pure
  intro world _ written
  refine ⟨?_, written⟩
  congr 1
  rw [entriesOf]
  generalize layoutFrom 0 groups = layout
  induction layout with
  | nil => rfl
  | cons item layout induction =>
    rw [map_cons, zip_cons_cons, map_cons, map_cons, induction]
    rfl

/-! ## Both files -/

/-- Options which `capture` accepts. One call of the kernel moves a whole chunk. -/
structure CaptureOptions (setting : Setting) where
  chunkBytes : Int
  queueDepth : Int
  replace : Bool
  chunk_positive : 0 < chunkBytes
  chunk_bounded : setting.captureTransport = false → chunkBytes ≤ transferLimit
  chunk_aligned : setting.captureTransport = true → chunkBytes % 4096 = 0
  depth_bounds : 1 ≤ queueDepth ∧ queueDepth ≤ 64

variable {tensors : List (String × Tensor)}

theorem Registered.pointer_positive {model : Model} (registered : Registered model tensors)
    {item : String × Tensor} (member : item ∈ tensors) : 0 < item.2.storage.pointer := by
  rcases registered.known item member with ⟨name, known⟩
  have nonempty := registered.storage_nonempty member
  exact model.placed (name, item.2) known nonempty

theorem Grouped.ne_nil (grouped : Grouped tensors groups) (some : tensors ≠ []) : groups ≠ [] := by
  rintro rfl
  have none := grouped.refs.length_eq
  simp only [flatMap_nil, length_nil, length_map] at none
  exact some (eq_nil_of_length_eq_zero none.symm)

variable [Builtins] {model : Model}

def manifestOf (setting : Setting) (identity : Json) (memory : Int → UInt8)
    (groups : List Group) : Dict :=
  manifestRecord setting identity (layoutEnd 0 groups) (sha256 (blobOf memory groups))
    (entriesOf memory groups)

structure Prepared (setting : Setting) (identity : Json) (memory : Int → UInt8)
    (groups : List Group) (world : World) : Prop where
  blob : Written .temporaryBlob (layoutEnd 0 groups) (blobOf memory groups) world
  manifest : Document .temporaryManifest (.obj (manifestOf setting identity memory groups)) world

/-- The entries describe the groups of the model. -/
abbrev Described (model : Model) (memory : Int → UInt8) (entries : List Dict)
    (holds : List Group → Prop) : Prop :=
  ∃ groups, storageGroups model = .ok groups ∧ entries = entriesOf memory groups ∧ holds groups

theorem writeFiles_keeps {identity : Json} (options : CaptureOptions setting)
    (fails : ∀ error, storageGroups model = .error error → regime.allowed) :
    regime.Keeps (Frame start) (fun _ => True)
      (writeFiles setting model identity options.chunkBytes.toNat) fun entries world =>
        Described model start.memory entries (Prepared setting identity start.memory · world) := by
  apply bindLift fails
  intro groups grouping
  rcases storageGroups_eq_ok.mp grouping with ⟨tensors, known, _⟩
  have grouped := grouped_storageGroups known grouping
  have registered := registered_of_ok known
  have placed : ∀ group ∈ groups, 0 < group.tensor.storage.pointer ∧
      0 < group.tensor.storage.nbytes := by
    intro group member
    rcases grouped.leads group member with ⟨name, _, lead, _⟩
    exact ⟨registered.1.pointer_positive lead, registered.1.storage_nonempty lead⟩
  apply Contract.through (Captures start groups)
  · have positive := options.chunk_positive
    unfold writeBlob
    split
    · rename_i transport
      have aligned := options.chunk_aligned transport
      exact captureWithTransport_keeps (by unfold alignment; omega) placed
    · rename_i transport
      have bounded := options.chunk_bounded (Bool.eq_false_iff.mpr transport)
      apply capturePython_keeps (by omega) (by omega)
      rcases exists_mem_of_ne_nil _ (grouped.ne_nil registered.2) with ⟨group, member⟩
      exact ⟨group, member, (placed group member).2⟩
  rintro ⟨entries, blobSha256⟩
  apply Contract.assuming
  intro same
  cases same
  apply Contract.through fun _ world =>
    Written .temporaryBlob (layoutEnd 0 groups) (blobOf start.memory groups) world ∧
      world.files .temporaryManifest ≠ none
  · apply create_keeps rfl
    exact fun world written => ⟨written, by simp⟩
  intro _
  apply Contract.through fun _ => Prepared setting identity start.memory groups
  · apply writeDocument_keeps rfl
    · exact fun world starts => starts.2
    · exact fun world file starts => ⟨starts.1, _, World.setFile_same .., rfl⟩
  intro _
  apply Contract.bind quiet_keeps
  intro _
  apply Contract.pure
  exact fun world _ prepared => ⟨groups, grouping, rfl, prepared⟩

end Coldsnap.Artifact
