import Coldsnap.DiskBackend.CaptureCorrect
import Coldsnap.DiskBackend.Writers

/-! # What the padded writers leave behind

`_write_extent_blob` leaves the bytes of its extents one after another, each
padded to a 4096-byte boundary, and records where each of them starts.
-/

namespace Coldsnap.DiskBackend

open Python Program Crc32 Chunks List Checked Bytes

variable {regime : Regime} {nature : Nature} {setting : Setting}
variable {touched : Path → Prop} {start : World}

/-! ## Reading back -/

variable {path : Path} {offset : Int} {property : World → Prop} {stage : HostStage}

section

variable (permits : regime.allowed) (ofFiles : OfFiles property)

include permits ofFiles

theorem preadv_keeps {done remaining : Nat} :
    regime.Within touched start property
      (preadv nature path stage done remaining offset) fun _ => property := by
  refine act_keeps fun world holds starts => ?_
  cases world.files path with
  | none => exact ⟨holds.ticked, permits⟩
  | some file =>
    exact ⟨{ holds with }, ofFiles world _ rfl starts⟩

theorem readExactAt_keeps {count : Nat} :
    regime.Within touched start property
      (readExactAt nature path stage count offset) fun _ => property := by
  have loop : ∀ rounds done, regime.Within touched start property
      (readExactFrom nature path stage count offset rounds done) fun _ => property := by
    intro rounds
    induction rounds with
    | zero => exact fun done => .pure fun _ _ => id
    | succ rounds induction =>
      intro done
      rw [readExactFrom]
      split
      · refine .bind (preadv_keeps permits ofFiles) fun moved => ?_
        split
        · exact .raise fun _ _ _ => permits
        · exact induction _
      · exact .pure fun _ _ => id
  exact loop count 0

theorem verifyBlob_keeps {entries : List Stored} {expected : Int} {direct : Bool} :
    regime.Within touched start property
      (verifyBlob nature setting entries expected direct path) fun _ => property := by
  have reads : ∀ stored verified, regime.Within touched start property
      (verifyStored nature setting path ⟨0, setting.chunkBytes⟩ verified stored)
      fun _ => property := by
    intro stored verified
    refine .bind (.foldEach (fun _ _ => property) (fun crc piece _ => ?_) _ _) fun crc => ?_
    · refine .bind (readExactAt_keeps permits ofFiles) fun _ => ?_
      exact .bind (.read fun _ _ => id) fun _ =>
        .pure fun _ _ => id
    · exact .bindRequire (fun _ _ _ _ => permits) fun _ =>
        .pure fun _ _ => id
  refine .bind (hostStage_keeps ofFiles) fun stage => .assuming fun equal => ?_
  subst equal
  apply Contract.through fun _ => property
  · refine ask_keeps (fun _ holds => holds.ticked) fun world _ starts => ?_
    cases world.files path with
    | none => exact permits
    | some _ => exact ofFiles world _ rfl starts
  intro openedDirect
  refine .finallyDo ?_ (fun _ => quiet_ofFiles ofFiles) (quiet_ofFiles fun _ _ _ => id)
  refine .bind (.foldEach (fun _ _ => property)
    (fun verified stored _ => reads stored verified) _ _) fun verified => ?_
  refine .bindRequire (fun _ _ _ _ => permits) fun _ => ?_
  split
  · exact quiet_ofFiles ofFiles
  · exact .pure fun _ _ => id

end

/-! ## Packed extents -/

def Extent.bytes (memory : Int → UInt8) (extent : Extent) : List UInt8 :=
  slice memory extent.ptr extent.size.toNat

def packed (memory : Int → UInt8) (extents : List Extent) : List UInt8 :=
  extents.flatMap fun extent => padBytes true (extent.bytes memory)

def Extent.recorded (memory : Int → UInt8) (extent : Extent) : Extent :=
  { extent with crc32 := some (hex8 (Crc32.crc32 (extent.bytes memory) 0)) }

def Extent.Fingerprinted [Hashing] (memory : Int → UInt8) (extent : Extent) : Prop :=
  extent.sha256 = some (Hashing.sha256 (extent.bytes memory))

def Extent.Positive (extent : Extent) : Prop := 0 < extent.size

section

variable (memory : Int → UInt8) (extent : Extent) (extents : List Extent)

theorem packed_cons : packed memory (extent :: extents) =
      padBytes true (extent.bytes memory) ++ packed memory extents :=
  flatMap_cons

variable (first second : List Extent)

theorem packed_append :
    packed memory (first ++ second) = packed memory first ++ packed memory second :=
  flatMap_append

theorem packedExtentBytes_cons :
    packedExtentBytes (extent :: extents) = alignUp extent.size + packedExtentBytes extents := rfl

theorem packedExtentBytes_append :
    packedExtentBytes (first ++ second) = packedExtentBytes first + packedExtentBytes second := by
  simp [packedExtentBytes]

variable {extents : List Extent}

theorem packed_length (positive : ∀ extent ∈ extents, extent.Positive) :
    ((packed memory extents).length : Int) = packedExtentBytes extents := by
  induction extents with
  | nil => rfl
  | cons extent extents induction =>
    have rest := induction (forall_mem_cons.mp positive).2
    have size : 0 < extent.size := positive extent mem_cons_self
    have grows := le_alignUp extent.size
    have same : ((extent.size.toNat : Nat) : Int) = extent.size := by omega
    rw [packed_cons, packedExtentBytes_cons, length_append, padBytes_length, if_pos rfl,
      Extent.bytes, slice_length, same]
    omega

theorem packedExtentBytes_nonneg (positive : ∀ extent ∈ extents, extent.Positive) :
    0 ≤ packedExtentBytes extents := by
  have length := packed_length (fun _ => 0) positive
  omega

variable {extent : Extent} {seen rest : List Extent}

/-- An extent lies right after the padded extents before it. -/
theorem assignOffsets_offset : ∀ {base : Int}, assignOffsets base extents = seen ++ extent :: rest →
      extent.offset = base + packedExtentBytes seen := by
  induction extents generalizing seen with
  | nil => intro base split; cases seen <;> cases split
  | cons first extents induction =>
    intro base split
    cases seen with
    | nil =>
      have head := (cons.inj split).1
      rw [← head]
      simp [packedExtentBytes]
    | cons other seen =>
      obtain ⟨head, tail⟩ := cons.inj split
      have later := induction tail
      rw [later, packedExtentBytes_cons, ← head]
      ring

theorem assignOffsets_map {β : Type} {project : Extent → β}
    (blind : ∀ extent offset, project { extent with offset := offset } = project extent) :
    ∀ (base : Int) (extents : List Extent),
      (assignOffsets base extents).map project = extents.map project := by
  intro base extents
  induction extents generalizing base with
  | nil => rfl
  | cons extent extents induction =>
    rw [assignOffsets, map_cons, map_cons, blind, induction]

theorem packed_assignOffsets (base : Int) (extents : List Extent) :
    packed memory (assignOffsets base extents) = packed memory extents := by
  simp only [packed, flatMap_def]
  rw [assignOffsets_map fun _ _ => rfl]

theorem packedExtentBytes_assignOffsets (base : Int) (extents : List Extent) :
    packedExtentBytes (assignOffsets base extents) = packedExtentBytes extents := by
  unfold packedExtentBytes
  rw [assignOffsets_map fun _ _ => rfl]

theorem mem_assignOffsets :
    ∀ {base : Int}, extent ∈ assignOffsets base extents →
      ∃ original ∈ extents, extent = { original with offset := extent.offset } := by
  induction extents with
  | nil => intro base member; cases member
  | cons first extents induction =>
    intro base member
    rcases mem_cons.mp member with equal | member
    · exact ⟨first, mem_cons_self, by rw [equal]⟩
    · obtain ⟨original, listed, equal⟩ := induction member
      exact ⟨original, mem_cons_of_mem _ listed, equal⟩

/-! ## The two transports -/

structure Progress [Hashing] (memory : Int → UInt8) (fileSha256 : Bool)
    (seen recordedSoFar : List Extent) (whole : List UInt8) : Prop where
  recorded : recordedSoFar = seen.map (Extent.recorded memory)
  whole : whole = packed memory seen
  fingerprints : fileSha256 = true → ∀ extent ∈ seen, extent.Fingerprinted memory

/-- The extents so far are recorded, and their bytes are in the file. -/
abbrev Staged [Hashing] (memory : Int → UInt8) (fileSha256 : Bool) (path : Path) (total : Int)
    (seen : List Extent) (written : List Extent × List UInt8) (world : World) : Prop :=
  Progress memory fileSha256 seen written.1 written.2 ∧
    Written path total (packed memory seen) world

theorem Progress.nil [Hashing] (fileSha256 : Bool) : Progress memory fileSha256 [] [] [] :=
  ⟨rfl, rfl, nofun⟩

end

variable {memory : Int → UInt8} {fileSha256 : Bool}

theorem recordDigest_eq_ok [Hashing] {result : Extent} {digests : Digests}
    (fed : digests.extent = extent.bytes memory) (crc : digests.crc = crc32 digests.extent 0)
    (returned : recordDigest fileSha256 extent digests = .ok result) :
    result = extent.recorded memory ∧ (fileSha256 = true → extent.Fingerprinted memory) := by
  simp only [recordDigest, bind_eq_ok, require_eq_ok, pure_eq_ok,
    Bool.not_eq_true', Bool.and_eq_false_iff, bne_eq_false_iff_eq] at returned
  obtain ⟨_, checked, rfl⟩ := returned
  rw [crc, fed]
  refine ⟨rfl, fun asked => ?_⟩
  rw [fed] at checked
  exact (checked.resolve_left (by simp [asked])).symm

/-- All extents can be read. -/
abbrev Regime.ReachesAll (regime : Regime) (setting : Setting) (device : Device)
    (extents : List Extent) : Prop :=
  ∀ extent ∈ extents, regime.Reaches setting device extent.ptr extent.size

structure Placed (extents : List Extent) : Prop where
  positive : ∀ extent ∈ extents, extent.Positive
  offset : ∀ seen extent rest, extents = seen ++ extent :: rest →
    extent.offset = packedExtentBytes seen

theorem placed_assignOffsets (positive : ∀ extent ∈ extents, extent.Positive) :
    Placed (assignOffsets 0 extents) := by
  refine ⟨fun extent member => ?_, fun seen extent rest split => ?_⟩
  · obtain ⟨original, listed, equal⟩ := mem_assignOffsets member
    rw [equal]
    exact positive original listed
  · rw [assignOffsets_offset split, zero_add]

namespace Placed

variable {seen rest : List Extent}
variable (placed : Placed extents) (split : extents = seen ++ extent :: rest)

include placed split

theorem packed_before (memory : Int → UInt8) : extent.offset = (packed memory seen).length := by
  rw [placed.offset seen extent rest split, packed_length]
  intro other member
  exact placed.positive other (by simp [split, member])

theorem size_pos : 0 < extent.size :=
  placed.positive extent (by simp [split])

theorem room : extent.offset + alignUp extent.size ≤ packedExtentBytes extents := by
  have later : 0 ≤ packedExtentBytes rest :=
    packedExtentBytes_nonneg fun other member => placed.positive other (by simp [split, member])
  rw [placed.offset seen extent rest split]
  conv_rhs => rw [split, packedExtentBytes_append, packedExtentBytes_cons]
  omega

end Placed

theorem Placed.slice (placed : Placed extents) {byte : Int → UInt8}
    (stored : slice byte 0 (packed memory extents).length = packed memory extents)
    (member : extent ∈ extents) :
    slice byte extent.offset extent.size.toNat = extent.bytes memory ∧
      0 ≤ extent.offset ∧ extent.offset + extent.size ≤ packedExtentBytes extents := by
  obtain ⟨seen, rest, split⟩ := append_of_mem member
  have offset := placed.packed_before split memory
  have room := placed.room split
  have grows := le_alignUp extent.size
  refine ⟨?_, by omega, by omega⟩
  have whole : packed memory extents = packed memory seen ++ extent.bytes memory ++
      (replicate ((alignUp (extent.bytes memory).length).toNat -
        (extent.bytes memory).length) 0 ++ packed memory rest) := by
    rw [split, packed_append, packed_cons]
    simp [padBytes]
  rw [whole] at stored
  have found := slice_middle stored
  rwa [← offset, Extent.bytes, slice_length] at found

/-! ### Native capture -/

def CaptureExtent.bytes (memory : Int → UInt8) (extent : CaptureExtent) : List UInt8 :=
  slice memory extent.source extent.length.toNat

def packedCapture (memory : Int → UInt8) (padExtents : Bool) (extents : List CaptureExtent) :
    List UInt8 :=
  extents.flatMap fun extent => padBytes padExtents (extent.bytes memory)

def Digests.Of (memory : Int → UInt8) (extent : CaptureExtent) (digests : Digests) : Prop :=
  digests.crc = crc32 digests.extent 0 ∧ digests.extent = extent.bytes memory

/-- The digests of the extents so far, and the file with their bytes. -/
abbrev Captured (memory : Int → UInt8) (padExtents : Bool) (path : Path)
    (seen : List CaptureExtent) (captured : List Digests × List UInt8) (world : World) : Prop :=
  (Forall₂ (Digests.Of memory) seen captured.1 ∧
    captured.2 = packedCapture memory padExtents seen) ∧
  Written path captured.2.length captured.2 world

/-- A file which ends where its bytes end. -/
theorem written_grow {done : List UInt8} {world : World} {file : File}
    (size : file.size = done.length) (stored : slice file.byte 0 done.length = done)
    (next : offset = done.length) (bytes : List UInt8) (tick : Nat) :
    Written path (done ++ bytes).length (done ++ bytes)
      (world.setFile path (some (file.store offset bytes.length
        (fun index => bytes.getD index 0) tick))).ticked := by
  subst next
  refine ⟨_, World.setFile_same world path _, ?_, ?_⟩
  · simp only [File.store, size, length_append, Nat.cast_add]
    omega
  · have same : (range bytes.length).map (fun index => bytes.getD index 0) = bytes := by
      refine ext_getElem (by simp) fun index _ inside => ?_
      simp [getD_eq_getElem?_getD, inside]
    rw [length_append]
    exact (slice_overwrite_append _ _ _ _).trans (by rw [stored, same])

theorem captureExtent_keeps (permits : regime.allowed) (inside : touched path) {padExtents : Bool}
    {seen : List CaptureExtent} {extent : CaptureExtent}
    (offset : extent.fileOffset = (packedCapture start.device.memory padExtents seen).length)
    (reach : regime.Reaches setting start.device extent.source extent.length)
    (captured : List Digests × List UInt8) :
    regime.Within touched start (Captured start.device.memory padExtents path seen captured)
      (captureExtent setting path padExtents captured extent)
      (Captured start.device.memory padExtents path (seen ++ [extent])) := by
  refine .assuming fun progress => act_keeps fun world holds starts => ?_
  obtain ⟨file, present, size, stored⟩ := starts
  rw [holds.accessible]
  by_cases mapped : start.device.accessible setting.pool extent.source extent.length = true
  · simp only [mapped, if_true, present, settles_ok, holds.memory]
    refine ⟨(holds.setFile inside _).ticked, ⟨?_, ?_⟩, ?_⟩
    · exact rel_append progress.1 (.cons ⟨rfl, rfl⟩ .nil)
    · rw [progress.2]
      simp [packedCapture, CaptureExtent.bytes]
    · exact written_grow size stored (by rw [offset, progress.2]) _ _
  · have careless := reach.resolve_right mapped
    simp only [mapped, if_false, settles_error, Bool.false_eq_true]
    exact ⟨(holds.hazard careless _).ticked, permits⟩

/-- Extents which a capture is asked to put one after another. -/
def Consecutive (memory : Int → UInt8) (padExtents : Bool) (extents : List CaptureExtent) : Prop :=
  ∀ (seen : List CaptureExtent) (extent : CaptureExtent) (rest : List CaptureExtent),
    extents = seen ++ extent :: rest →
      extent.fileOffset = ((packedCapture memory padExtents seen).length : Int)

variable {verify : Bool}

theorem capture_keeps (permits : regime.allowed) (inside : touched path) {padExtents : Bool}
    {extents : List CaptureExtent}
    (consecutive : Consecutive start.device.memory padExtents extents)
    (reach : ∀ extent ∈ extents, regime.Reaches setting start.device extent.source extent.length) :
    regime.Within touched start (fun _ => True)
      (capture nature setting path extents verify padExtents)
      fun captured => Captured start.device.memory padExtents path extents captured.1 := by
  refine .bindExcept (fun _ _ _ _ _ => permits) fun _ _ => ?_
  refine .bindRequire (fun _ _ _ _ => permits) fun _ => ?_
  refine .bindExcept (fun _ _ _ _ _ => permits) fun _ _ => ?_
  refine .bind (openForWriting_keeps inside) fun direct => ?_
  let done := Captured start.device.memory padExtents path
  have ofFiles : ∀ captured, OfFiles (done extents captured) :=
    fun captured world other same holds =>
      ⟨holds.1, written_ofFiles _ _ _ world other same holds.2⟩
  apply Contract.through (done extents)
  · refine .starting ?_ (.foldSeen (fun captured seen => done seen captured) ?_ _)
    · exact fun world _ starts => ⟨⟨.nil, rfl⟩, starts⟩
    · intro captured seen extent items split
      exact captureExtent_keeps permits inside (consecutive seen extent items split)
        (reach extent (by simp [split])) captured
  intro captured
  refine .bind (quiet_ofFiles (ofFiles captured)) fun _ => ?_
  refine .bind (.onlyIf (fun _ => quiet_ofFiles (ofFiles captured))
    fun _ _ _ => id) fun _ => .pure fun _ _ => id

theorem consecutive_of_placed (placed : Placed extents) (memory : Int → UInt8) :
    Consecutive memory true
      (extents.map fun extent => ⟨extent.offset, extent.ptr, extent.size⟩) := by
  intro seen extent rest split
  obtain ⟨first, others, equal, rfl, second⟩ := map_eq_append_iff.mp split
  obtain ⟨original, later, rfl, rfl, rfl⟩ := map_eq_cons_iff.mp second
  refine (placed.packed_before equal memory).trans ?_
  simp only [packed, packedCapture, flatMap_map]
  rfl

theorem recordDigests_eq_ok [Hashing] {digests : List Digests}
    (captured : Forall₂ (fun extent => Digests.Of memory
      ⟨extent.offset, extent.ptr, extent.size⟩) extents digests) :
    ∀ {recorded : List Extent},
      mapEach (fun pair : Extent × Digests => recordDigest fileSha256 pair.1 pair.2)
        (extents.zip digests) = .ok recorded →
      recorded = extents.map (Extent.recorded memory) ∧
        (fileSha256 = true → ∀ extent ∈ extents, extent.Fingerprinted memory) := by
  induction captured with
  | nil =>
    intro recorded returned
    cases returned
    exact ⟨rfl, nofun⟩
  | cons head _ induction =>
    intro recorded returned
    simp only [zip_cons_cons, mapEach, bind_eq_ok, pure_eq_ok] at returned
    obtain ⟨first, firstReturned, rest, restReturned, rfl⟩ := returned
    have firstOutcome := recordDigest_eq_ok head.2 head.1 firstReturned
    have restOutcome := induction restReturned
    refine ⟨by rw [firstOutcome.1, restOutcome.1, map_cons], fun asked => ?_⟩
    exact forall_mem_cons.mpr ⟨firstOutcome.2 asked, restOutcome.2 asked⟩

/-! ### Both ways to write the extents -/

section Transfer

variable [Hashing] {temporary : Path} (permits : regime.allowed) (inside : touched temporary)
  (placed : Placed extents) (reach : regime.ReachesAll setting start.device extents)

include permits inside placed reach

theorem writeExtent_keeps (split : extents = seen ++ extent :: rest)
    (written : List Extent × List UInt8) :
    regime.Within touched start
      (Staged start.device.memory fileSha256 temporary (packedExtentBytes extents) seen written)
      (writeExtent nature setting temporary ⟨0, setting.chunkBytes⟩ fileSha256 written extent)
      (Staged start.device.memory fileSha256 temporary (packedExtentBytes extents)
        (seen ++ [extent])) := by
  have size := placed.size_pos split
  have reached := reach extent (by simp [split])
  have same : ((extent.size.toNat : Nat) : Int) = extent.size := by omega
  have room : extent.offset + paddedCount true extent.size.toNat ≤ packedExtentBytes extents := by
    have fits := placed.room split
    have grows := le_alignUp extent.size
    unfold paddedCount
    rw [if_pos rfl, same]
    omega
  refine .assuming fun progress => ?_
  refine .bind (captureRange_keeps inside (by rwa [same])
    (placed.packed_before split start.device.memory) room) fun digests =>
      .assuming fun fed => ?_
  refine .bindExcept (fun _ _ _ _ _ => permits) fun recorded returned => ?_
  have outcome := recordDigest_eq_ok (by rw [fed]; rfl) (by rw [fed]; rfl) returned
  refine .pure fun world _ ends => ⟨⟨?_, ?_, ?_⟩, ?_⟩
  · rw [progress.recorded, outcome.1, map_append]
    rfl
  · rw [fed, packed_append, progress.whole]
    simp [packed, Digests.feed, Extent.bytes]
  · intro asked other member
    rcases mem_append.mp member with member | member
    · exact progress.fingerprints asked other member
    · rw [mem_singleton.mp member]
      exact outcome.2 asked
  · simpa [packed, Extent.bytes] using ends

theorem stageExtents_keeps :
    regime.Within touched start (fun _ => True)
      (stageExtents nature setting temporary extents (packedExtentBytes extents) fileSha256)
      fun transferred => Staged start.device.memory fileSha256 temporary
        (packedExtentBytes extents) extents (transferred.extents, transferred.whole) := by
  refine .bind (hostStage_keeps ofFiles_true) fun stage =>
    .assuming fun equal => ?_
  subst equal
  refine .bind (openForWriting_keeps inside) fun direct => ?_
  let staged := Staged start.device.memory fileSha256 temporary (packedExtentBytes extents)
  have ofFiles : ∀ written, OfFiles (staged extents written) :=
    fun written world other same holds => ⟨holds.1, written_ofFiles _ _ _ world other same holds.2⟩
  refine .bind (.finallyDo (?_ : regime.Keeps _ _ _ (staged extents))
    (fun written => quiet_ofFiles (ofFiles written)) (quiet_ofFiles fun _ _ _ => id))
    fun written => .pure fun _ _ => id
  refine .bind (preallocate_keeps inside permits) fun _ => ?_
  refine .bind (.starting (fun world _ starts => ⟨Progress.nil _ _, starts⟩)
    (.foldSeen (fun written seen => staged seen written) ?_ _)) fun written => ?_
  · intro written seen extent items split
    exact writeExtent_keeps permits inside placed reach split written
  · refine .bind (quiet_ofFiles (ofFiles written)) fun _ => ?_
    refine .bind (.onlyIf (fun _ => quiet_ofFiles (ofFiles written))
      fun _ _ _ => id) fun _ => .pure fun _ _ => id

theorem captureExtents_keeps :
    regime.Within touched start (fun _ => True)
      (captureExtents nature setting temporary extents (packedExtentBytes extents) fileSha256
        verify)
      fun transferred => Staged start.device.memory fileSha256 temporary
        (packedExtentBytes extents) extents (transferred.extents, transferred.whole) := by
  have reachAll : ∀ extent ∈ extents.map fun extent =>
      (⟨extent.offset, extent.ptr, extent.size⟩ : CaptureExtent),
      regime.Reaches setting start.device extent.source extent.length := by
    intro extent member
    obtain ⟨original, listed, rfl⟩ := mem_map.mp member
    exact reach original listed
  refine .bind (capture_keeps permits inside
    (consecutive_of_placed placed start.device.memory) reachAll) fun captured =>
      .assuming fun progress => ?_
  have whole : captured.1.2 = packed start.device.memory extents := by
    rw [progress.2]
    simp only [packed, packedCapture, flatMap_map]
    rfl
  refine .bindRequire (fun _ _ _ _ => permits) fun _ => ?_
  refine .bindExcept (fun _ _ _ _ _ => permits) fun recorded returned => ?_
  refine .pure fun world _ ends => ?_
  have outcome := recordDigests_eq_ok (forall₂_map_left_iff.mp progress.1) returned
  rw [whole] at ends ⊢
  refine ⟨⟨outcome.1, rfl, outcome.2⟩, ?_⟩
  rwa [packed_length start.device.memory placed.positive] at ends

end Transfer

/-! ## The padded writer -/

theorem discardingOnError_keeps {α : Type} (inside : touched path) {body : Action α}
    {before : World → Prop} {after : α → World → Prop}
    (contract : regime.Within touched start before body after) :
    regime.Within touched start before (discardingOnError path body) after :=
  .recover contract fun _ =>
    .bind (unlink_keeps inside fun _ => id) fun _ =>
      .raise fun _ _ => id

structure BlobOf [Hashing] (memory : Int → UInt8) (extents : List Extent) (fileSha256 : Bool)
    (written : WrittenBlob) : Prop where
  bytes : written.bytes = packedExtentBytes extents
  recorded : written.extents = (assignOffsets 0 extents).map (Extent.recorded memory)
  sha256 : written.sha256 = Hashing.sha256 (packed memory extents)
  fingerprints : fileSha256 = true → ∀ extent ∈ assignOffsets 0 extents, extent.Fingerprinted memory

theorem writeExtentBlob_keeps [Hashing] (permits : regime.allowed) (inside : touched path)
    (insideTemporary : touched path.temporary) (positive : ∀ extent ∈ extents, extent.Positive)
    (reach : regime.ReachesAll setting start.device extents) :
    regime.Within touched start (fun _ => True)
      (writeExtentBlob nature setting extents path fileSha256 verify)
      fun written world =>
        (BlobOf start.device.memory extents fileSha256 written ∧ written.path = path ∧
          written.preverified = verify) ∧
        Written path (packedExtentBytes extents) (packed start.device.memory extents) world ∧
        ∃ file, world.files path = some file ∧ written.stat = file.stat := by
  have placed := placed_assignOffsets positive
  have reachPlaced : regime.ReachesAll setting start.device (assignOffsets 0 extents) := by
    intro extent member
    obtain ⟨original, listed, equal⟩ := mem_assignOffsets member
    rw [equal]
    exact reach original listed
  refine .bindRequire (fun _ _ _ _ => permits) fun _ => ?_
  refine .bind (unlink_keeps insideTemporary fun _ => id) fun _ => ?_
  let finished (path : Path) (transferred : Transferred) (world : World) : Prop :=
    Progress start.device.memory fileSha256 (assignOffsets 0 extents) transferred.extents
      transferred.whole ∧
    Written path (packedExtentBytes extents) (packed start.device.memory extents) world
  have transfers : regime.Within touched start (fun _ => True)
      (transferExtents nature setting path.temporary (assignOffsets 0 extents)
        (packedExtentBytes extents) fileSha256 verify) (finished path.temporary) := by
    unfold finished
    rw [← packedExtentBytes_assignOffsets 0, ← packed_assignOffsets start.device.memory 0]
    unfold transferExtents
    split
    · exact captureExtents_keeps permits insideTemporary placed reachPlaced
    · exact stageExtents_keeps permits insideTemporary placed reachPlaced
  have ofFiles := written_ofFiles path (packedExtentBytes extents)
    (packed start.device.memory extents)
  refine .bind (discardingOnError_keeps insideTemporary
    (?_ : regime.Keeps _ _ _ (finished path))) fun transferred => ?_
  · refine .bind transfers fun transferred => .assuming fun progress => ?_
    refine .bind (replaceFile_keeps insideTemporary inside) fun _ => ?_
    refine .bind (chmod_keeps inside) fun _ => ?_
    refine .bind (.onlyIf (fun _ => verifyBlob_keeps permits ofFiles) fun _ _ _ => id) fun _ => ?_
    exact .pure fun world _ ends => ⟨progress, ends⟩
  · refine .assuming fun progress => ?_
    refine .bind statIdentity_keeps fun stat => .pure fun world _ ends => ?_
    refine ⟨⟨⟨rfl, progress.recorded, ?_, progress.fingerprints⟩, rfl, rfl⟩, ends.1, ends.2⟩
    rw [progress.whole, packed_assignOffsets]

end Coldsnap.DiskBackend
