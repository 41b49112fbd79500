import Coldsnap.DiskBackend.Frames

/-! # What a capture leaves in its file

The file grows by the bytes of one chunk after another, so that its first bytes
are at any moment the bytes of the ranges captured so far.
-/

namespace Coldsnap.DiskBackend

open Python Program Crc32 Chunks List Bytes

variable {regime : Regime} {nature : Nature} {setting : Setting}
variable {touched : Path → Prop} {start : World}

def World.view (world : World) (stage : HostStage) (count : Nat) : List UInt8 :=
  (range count).map (world.stages stage.index)

variable (world : World)

variable (stage : HostStage)

@[simp] theorem World.view_length (count : Nat) : (world.view stage count).length = count := by
  simp [World.view]

variable {count : Nat}

theorem World.view_getElem {index : Nat} (bound : index < (world.view stage count).length) :
    (world.view stage count)[index] = world.stages stage.index index := by
  simp [World.view]

theorem World.view_append (first second : Nat) :
    world.view stage (first + second) = world.view stage first ++
      (range second).map fun index => world.stages stage.index (first + index) := by
  simp [World.view, range_add, Function.comp_def]

def Written (path : Path) (total : Int) (done : List UInt8) (world : World) : Prop :=
  ∃ file, world.files path = some file ∧ file.size = total ∧ slice file.byte 0 done.length = done

def OfFiles (property : World → Prop) : Prop :=
  ∀ world other : World, other.files = world.files → property world → property other

variable {path : Path} {total : Int} {done : List UInt8}

theorem written_of_files_eq {world other : World} (same : other.files path = world.files path)
    (holds : Written path total done world) : Written path total done other := by
  unfold Written
  rw [same]
  exact holds

theorem written_ofFiles (path : Path) (total : Int) (done : List UInt8) :
    OfFiles (Written path total done) := by
  intro world other same holds
  exact written_of_files_eq (congrFun same path) holds

def AwayFrom (paths : Path → Prop) (property : World → Prop) : Prop :=
  ∀ world other : World, (∀ path, ¬paths path → other.files path = world.files path) →
    property world → property other

def Document (path : Path) (value : Json) (world : World) : Prop :=
  ∃ file, world.files path = some file ∧ file.meaning = .document value

theorem document_ofFiles (path : Path) (value : Json) : OfFiles (Document path value) := by
  intro world other same holds
  unfold Document
  rw [same]
  exact holds

theorem ofFiles_true : OfFiles fun _ => True := fun _ _ _ _ => trivial

variable {property : World → Prop}

theorem quiet_ofFiles {label : Label} (ofFiles : OfFiles property) :
    regime.Within touched start property (quiet label) fun _ => property :=
  quiet_keeps (fun _ holds => holds.ticked) fun world => ofFiles world world.ticked rfl

theorem isFile_keeps (ofFiles : OfFiles property) :
    regime.Within touched start property (isFile path) fun _ => property :=
  ask_keeps (fun _ holds => holds.ticked) fun world _ => ofFiles world world.ticked rfl

theorem AwayFrom.ofFiles {paths : Path → Prop} (away : AwayFrom paths property)
    : OfFiles property :=
  fun world other same => away world other fun each _ => congrFun same each

/-! ## Transfers -/

variable {pointer offset : Int}

theorem accessible_part {device : Device} {pool : List Allocation} {size : Int}
    (whole : device.accessible pool pointer size = true) {count : Int} (above : 0 ≤ offset)
    (inside : offset + count ≤ size) : device.accessible pool (pointer + offset) count = true := by
  simp only [Device.accessible, any_eq_true, Bool.and_eq_true, decide_eq_true_eq] at whole ⊢
  obtain ⟨allocation, member, ⟨mapped, starts⟩, stops⟩ := whole
  exact ⟨allocation, member, ⟨mapped, by omega⟩, by omega⟩

variable {stage : HostStage} {size : Nat}

theorem copyToHost_keeps (ofFiles : OfFiles property) (fits : 0 < size ∧ size ≤ stage.capacity)
    (reach : regime.Reaches setting start.device pointer size) :
    regime.Within touched start property (copyToHost setting stage pointer size)
      fun _ world => property world ∧
        world.view stage size = slice start.device.memory pointer size := by
  refine .bindExcept ?_ fun _ _ => ?_
  · intro error raised
    simp [validateCopy, Checked.require, fits] at raised
  refine act_keeps fun world holds starts => ?_
  rw [holds.accessible]
  by_cases mapped : start.device.accessible setting.pool pointer size = true
  · simp only [mapped, if_true, settles_ok]
    refine ⟨{ holds with }, ofFiles world _ rfl starts, ?_⟩
    refine map_congr_left fun index member => ?_
    simp [World.ticked, mem_range.mp member, holds.memory]
  · have careless := reach.resolve_right mapped
    simp only [mapped, if_false, settles_error, Bool.false_eq_true]
    exact ⟨(holds.hazard careless _).ticked, regime.careful careless⟩

variable {bytes : List UInt8}

theorem stageBytes_keeps :
    regime.Within touched start
      (fun world => property world ∧ world.view stage count = bytes) (stageBytes stage count)
      fun view world => view = bytes ∧ property world ∧ world.view stage count = bytes :=
  .read fun _ _ starts => ⟨starts.2, starts⟩

@[simp] theorem World.setFile_same (path : Path) (file : Option File) :
    (world.setFile path file).files path = file := by
  simp [World.setFile]

theorem written_store {world : World} {file : File} (size : file.size = total)
    (stored : slice file.byte 0 done.length = done) (next : offset = done.length)
    (room : offset + count ≤ total) (byte : Nat → UInt8) (tick : Nat) :
    Written path total (done ++ (range count).map byte)
      (world.setFile path (some (file.store offset count byte tick))).ticked := by
  subst next
  refine ⟨_, World.setFile_same world path _, ?_, ?_⟩
  · simp only [File.store, size]
    omega
  · rw [length_append, length_map, length_range]
    exact (slice_overwrite_append _ _ _ _).trans (by rw [stored])

theorem pwritev_keeps (inside : touched path) {written : Nat} (remaining : written < count)
    (next : offset = done.length) (room : offset + count ≤ total) :
    regime.Within touched start (fun world => world.view stage count = bytes ∧
        Written path total (done ++ bytes.take written) world)
      (pwritev nature path stage written (count - written) (offset + written))
      fun moved world => (0 < moved ∧ moved ≤ count - written) ∧ world.view stage count = bytes ∧
        Written path total (done ++ bytes.take (written + moved)) world := by
  refine onFile_keeps inside fun world holds starts => ?_
  obtain ⟨viewed, file, present, size, stored⟩ := starts
  refine ⟨file, present, by omega, viewed, ?_⟩
  have length : bytes.length = count := by rw [← viewed, World.view_length]
  have taken : ∀ part ≤ count, bytes.take part = world.view stage part := by
    intro part bound
    rw [← viewed]
    simp [World.view, ← map_take, take_range, bound]
  have pieces : ∀ moved ≤ count - written, bytes.take (written + moved) = bytes.take written ++
      (range moved).map fun index => world.stages stage.index (written + index) := by
    intro moved bound
    rw [taken _ (by omega), taken _ (by omega), World.view_append]
  rw [pieces _ (by omega), ← append_assoc]
  refine written_store size stored ?_ (by omega) _ _
  simp only [length_append, length_take]
  omega

theorem writeAllAt_keeps (inside : touched path) (next : offset = done.length)
    (room : offset + count ≤ total) :
    regime.Within touched start
      (fun world => world.view stage count = bytes ∧ Written path total done world)
      (writeAllAt nature path stage count offset)
      fun _ world => Written path total (done ++ bytes) world := by
  -- Every round moves a byte, so the rounds left suffice for the bytes left.
  have loop : ∀ rounds written, count ≤ written + rounds → written ≤ count →
      regime.Within touched start (fun world => world.view stage count = bytes ∧
          Written path total (done ++ bytes.take written) world)
        (writeAllFrom nature path stage count offset rounds written)
        fun _ world => Written path total (done ++ bytes) world := by
    intro rounds
    induction rounds with
    | zero =>
      intro written enough bounded
      refine .pure fun world _ starts => ?_
      have length : bytes.length = count := by rw [← starts.1, World.view_length]
      have all := starts.2
      rwa [take_of_length_le (by omega)] at all
    | succ rounds induction =>
      intro written enough bounded
      rw [writeAllFrom]
      split
      · next remaining =>
          refine .bind (pwritev_keeps inside remaining next room) fun moved => ?_
          refine .assuming fun progress => ?_
          exact induction (written + moved) (by omega) (by omega)
      · refine .pure fun world _ starts => ?_
        have length : bytes.length = count := by rw [← starts.1, World.view_length]
        have all := starts.2
        rwa [take_of_length_le (by omega)] at all
  refine (loop count 0 (by omega) (by omega)).consequence (fun world _ starts => ?_) fun _ _ _ => id
  simpa using starts

/-! ## Padding -/

variable (padded : Bool)

theorem padBytes_length (bytes : List UInt8) :
    (padBytes padded bytes).length =
      if padded then (alignUp bytes.length).toNat else bytes.length := by
  have grows := le_alignUp bytes.length
  unfold padBytes
  split
  · rw [length_append, length_replicate]
    omega
  · rfl

theorem padBytes_append {first : List UInt8} (aligned : first.length % 4096 = 0)
    (second : List UInt8) :
    padBytes padded (first ++ second) = first ++ padBytes padded second := by
  have same : (alignUp (first ++ second).length).toNat - (first ++ second).length =
      (alignUp second.length).toNat - second.length := by
    rw [length_append]
    unfold alignUp
    omega
  unfold padBytes
  rw [same, append_assoc]
  split <;> rfl

theorem padBytes_aligned (aligned : bytes.length % 4096 = 0) : padBytes padded bytes = bytes := by
  have split := padBytes_append padded aligned []
  have empty : padBytes padded [] = [] := by cases padded <;> rfl
  rwa [append_nil, empty, append_nil] at split

def paddedCount (padded : Bool) (count : Nat) : Nat :=
  if padded then (alignUp count).toNat else count

theorem paddedCount_le {copied : Nat} (aligned : copied % 4096 = 0)
    (bound : copied + count ≤ size) :
    copied + paddedCount padded count ≤ paddedCount padded size := by
  have multiple : (copied : Int) % 4096 = 0 := by exact_mod_cast aligned
  have moved := alignUp_add multiple count
  have within : alignUp (copied + count) ≤ alignUp size := alignUp_mono (by omega)
  have grows := le_alignUp count
  unfold paddedCount
  split <;> omega

theorem padStage_keeps (ofFiles : OfFiles property) :
    regime.Within touched start (fun world => property world ∧ world.view stage count = bytes)
      (padStage stage count (paddedCount padded count))
      fun _ world => property world ∧
        world.view stage (paddedCount padded count) = padBytes padded bytes := by
  refine .assign fun world holds starts => ?_
  refine ⟨{ holds with }, ofFiles world _ rfl starts.1, ?_⟩
  have length : bytes.length = count := by rw [← starts.2, World.view_length]
  have grows := le_alignUp count
  obtain ⟨extra, extraEq⟩ : ∃ extra, paddedCount padded count = count + extra := by
    refine ⟨paddedCount padded count - count, ?_⟩
    unfold paddedCount
    split <;> omega
  have pads : padBytes padded bytes = bytes ++ replicate extra 0 := by
    unfold padBytes
    unfold paddedCount at extraEq
    split
    · next on =>
        rw [if_pos on] at extraEq
        rw [length, extraEq, Nat.add_sub_cancel_left]
    · next off =>
        rw [if_neg off] at extraEq
        have none : extra = 0 := by omega
        simp [none]
  rw [extraEq, pads, World.view_append, ← starts.2]
  congr 1
  · refine map_congr_left fun index member => ?_
    simp [Nat.not_le.mpr (mem_range.mp member)]
  · rw [eq_replicate_iff]
    refine ⟨by simp, fun byte member => ?_⟩
    obtain ⟨index, bound, rfl⟩ := mem_map.mp member
    simp [mem_range.mp bound]

/-! ## Chunks and ranges -/

def Digests.feed (digests : Digests) (padded : Bool) (view : List UInt8) : Digests :=
  ⟨crc32 view digests.crc, digests.extent ++ view, digests.whole ++ padBytes padded view⟩

section

variable (inside : touched path)

include inside

theorem captureChunk_keeps {padded : Bool} {copied : Nat}
    (piece : Piece setting.chunkBytes size copied count)
    (reach : regime.Reaches setting start.device pointer size)
    (next : offset + copied = done.length)
    (room : offset + copied + paddedCount padded count ≤ total) (digests : Digests) :
    regime.Within touched start (Written path total done)
      (captureChunk nature setting path ⟨0, setting.chunkBytes⟩ pointer offset padded digests
        (copied, count))
      fun result world =>
        result = digests.feed padded (slice start.device.memory (pointer + copied) count) ∧
        Written path total
          (done ++ padBytes padded (slice start.device.memory (pointer + copied) count))
          world := by
  have reachChunk : regime.Reaches setting start.device (pointer + copied) count :=
    reach.imp_right fun whole =>
      accessible_part whole (by omega) (by have bound := piece.inside; omega)
  refine .bind (copyToHost_keeps (written_ofFiles path total done)
    ⟨piece.positive, piece.bounded⟩ reachChunk) fun _ => ?_
  refine .bind stageBytes_keeps fun view => .assuming fun viewed => ?_
  subst viewed
  refine .bind (padStage_keeps padded (written_ofFiles path total done)) fun _ => ?_
  refine .bind stageBytes_keeps fun filled => .assuming fun viewed => ?_
  subst viewed
  refine .bind (.starting (fun _ _ starts => starts.symm)
    (writeAllAt_keeps inside next room)) fun _ => ?_
  exact .pure fun _ _ written => ⟨rfl, written⟩

theorem captureRange_keeps {padded : Bool} {whole : List UInt8}
    (reach : regime.Reaches setting start.device pointer size) (next : offset = done.length)
    (room : offset + paddedCount padded size ≤ total) :
    regime.Within touched start (Written path total done)
      (captureRange nature setting path ⟨0, setting.chunkBytes⟩ pointer size offset padded whole)
      fun digests world =>
        digests = (⟨0, [], whole⟩ : Digests).feed padded (slice start.device.memory pointer size) ∧
        Written path total
          (done ++ padBytes padded (slice start.device.memory pointer size)) world := by
  have aligned := setting.chunk_aligned
  let invariant (digests : Digests) (copied : Nat) (world : World) : Prop :=
    (copied = size ∨ copied % 4096 = 0) ∧
      digests = (⟨0, [], whole⟩ : Digests).feed padded (slice start.device.memory pointer copied) ∧
      Written path total (done ++ padBytes padded (slice start.device.memory pointer copied)) world
  refine .consequence (.chunks aligned.1 invariant ?_ ⟨0, [], whole⟩)
    (fun world _ starts => ?_) fun digests world _ ends => ends.2
  · intro digests copied count piece
    refine .assuming fun position => .assuming fun fed => ?_
    -- Before the last chunk the position is a multiple of the chunk size, so no
    -- padding stands between two chunks.
    have bound := piece.inside
    have positive := piece.positive
    have low := position.resolve_left (by omega)
    have lowLength : (slice start.device.memory pointer copied).length % 4096 = 0 := by
      rw [slice_length]
      exact low
    have later : copied + count = size ∨ (copied + count) % 4096 = 0 := by
      rcases piece.full with full | last
      · omega
      · exact .inl last
    have fits := paddedCount_le padded low bound
    rw [padBytes_aligned padded lowLength]
    refine .ending (fun result world _ ends => ⟨later, ?_⟩)
      (captureChunk_keeps inside piece reach (by simp [next]) (by omega) digests)
    rw [slice_append, padBytes_append padded lowLength, ← append_assoc]
    refine ⟨?_, ends.2⟩
    rw [ends.1, fed]
    simp [Digests.feed, padBytes_aligned padded lowLength, crc32_append,
      padBytes_append padded lowLength]
  · have empty : padBytes padded [] = [] := by cases padded <;> rfl
    refine ⟨.inr rfl, ?_, ?_⟩
    · simp [Digests.feed, empty]
    · simpa [empty] using starts

/-! ## Whole files -/

def World.addStage (world : World) : World :=
  { world with backend := { world.backend with stageCount := world.backend.stageCount + 1 } }

omit inside in
theorem hostStages_keeps {frame : World → Prop}
    (timeless : ∀ world, frame world → frame world.ticked)
    (staged : ∀ world, frame world → frame world.addStage)
    (stable : ∀ world, property world → property world.ticked ∧ property world.addStage)
    (count : Nat) :
    regime.Keeps frame property (hostStages setting count) fun stages world =>
      stages = ((range count).map fun index => ⟨index, setting.chunkBytes⟩) ∧ property world := by
  unfold hostStages backend
  refine .bindRead fun allocated => ?_
  refine .bind (.starting (fun world _ starts => starts.1)
    (.forEach (fun _ => property) (fun _ _ => ?_) _)) fun _ =>
      .pure fun _ _ starts => ⟨rfl, starts⟩
  refine .bind (quiet_keeps timeless fun world starts => (stable world starts).1) fun _ => ?_
  exact .assign fun world holds starts => ⟨staged world holds, (stable world starts).2⟩

omit inside in
theorem hostStage_keeps (ofFiles : OfFiles property) :
    regime.Within touched start property (hostStage setting)
      fun stage world => stage = ⟨0, setting.chunkBytes⟩ ∧ property world := by
  refine .bind (hostStages_keeps (fun _ holds => holds.ticked) (fun _ holds => ?_)
    (fun world starts => ⟨ofFiles world _ rfl starts, ofFiles world _ rfl starts⟩) 1) fun _ =>
      .pure fun _ _ starts => ⟨rfl, starts.2⟩
  exact { holds with backend := by rw [World.addStage, holds.backend] }

theorem unlink_keeps (keeps : ∀ world, property world → property (world.setFile path none).ticked) :
    regime.Within touched start property (unlink path) fun _ => property :=
  act_keeps fun world holds starts => ⟨(holds.setFile inside none).ticked, keeps world starts⟩

theorem openForWriting_keeps {direct : Bool} {before : World → Prop} :
    regime.Within touched start before (openForWriting nature path direct)
      fun _ => Written path 0 [] :=
  act_keeps fun _ holds _ =>
    ⟨(holds.setFile inside _).ticked, _, World.setFile_same _ _ _, rfl, rfl⟩

theorem preallocate_keeps (permits : regime.allowed) {size : Int} :
    regime.Within touched start (Written path 0 []) (preallocate path size)
      fun _ => Written path size [] := by
  refine .bindExcept (fun _ _ _ _ _ => permits) fun _ returned => ?_
  have positive : 0 < size := by simpa using returned
  refine onFile_keeps inside fun world _ starts => ?_
  obtain ⟨file, present, empty, _⟩ := starts
  refine ⟨file, present, _, World.setFile_same _ _ _, ?_, rfl⟩
  simp only [empty]
  omega

theorem chmod_keeps :
    regime.Within touched start (Written path total done) (chmod path)
      fun _ => Written path total done := by
  refine onFile_keeps inside fun world _ starts => ?_
  obtain ⟨file, present, size, stored⟩ := starts
  exact ⟨file, present, _, World.setFile_same _ _ _, size, stored⟩

end

theorem replaceFile_keeps {source target : Path} (insideSource : touched source)
    (insideTarget : touched target) :
    regime.Within touched start (Written source total done)
      (replaceFile source target) fun _ => Written target total done := by
  refine act_keeps fun world holds starts => ?_
  obtain ⟨file, present, size, stored⟩ := starts
  simp only [present, settles_ok]
  exact ⟨((holds.setFile insideSource none).setFile insideTarget _).ticked,
    _, World.setFile_same _ _ _, size, stored⟩

theorem statIdentity_keeps :
    regime.Within touched start (Written path total done) (statIdentity path)
      fun stat world => Written path total done world ∧
        ∃ file, world.files path = some file ∧ stat = file.stat := by
  refine act_keeps fun world holds starts => ?_
  obtain ⟨file, present, size, stored⟩ := starts
  simp only [present, settles_ok]
  exact ⟨holds.ticked, ⟨file, present, size, stored⟩, file, present, rfl⟩

theorem atomicJson_keeps (inside : touched path) (insideTemporary : touched path.temporary)
    {value : Json} (away : AwayFrom (fun other => other = path ∨ other = path.temporary) property) :
    regime.Within touched start property (atomicJson nature path value)
      fun _ world => property world ∧ Document path value world := by
  have ofFiles := away.ofFiles
  have temporary : ∀ world file, property world →
      property (world.setFile path.temporary file).ticked := by
    intro world file
    refine away world _ fun other free => ?_
    have different : other ≠ path.temporary := fun equal => free (.inr equal)
    simp [World.ticked, World.setFile, different]
  let drafted (world : World) : Prop :=
    property world ∧ ∃ file, world.files path.temporary = some file
  let encoded (world : World) : Prop := property world ∧ Document path.temporary value world
  let published (world : World) : Prop := property world ∧ Document path value world
  have opens : regime.Within touched start property
      (openForWriting nature path.temporary false) fun _ => drafted :=
    act_keeps fun world holds starts => ⟨(holds.setFile insideTemporary _).ticked,
      temporary world _ starts, _, World.setFile_same _ _ _⟩
  have encodes : regime.Within touched start drafted
      (onFile .writeDocument path.temporary fun world file =>
        ((), documentFile nature value file world.tick)) fun _ => encoded := by
    refine onFile_keeps insideTemporary fun world _ starts => ?_
    obtain ⟨holds, file, present⟩ := starts
    exact ⟨file, present, temporary world _ holds, _, World.setFile_same _ _ _, rfl⟩
  have replaces : regime.Within touched start encoded
      (replaceFile path.temporary path) fun _ => published := by
    refine act_keeps fun world holds starts => ?_
    obtain ⟨kept, file, present, meaning⟩ := starts
    simp only [present, settles_ok]
    refine ⟨((holds.setFile insideTemporary none).setFile inside _).ticked,
      away world _ (fun other free => ?_) kept, _, World.setFile_same _ _ _, meaning⟩
    have different := not_or.mp free
    simp [World.ticked, World.setFile, different]
  refine .bind opens fun _ => .bind encodes fun _ => ?_
  refine .bind (quiet_ofFiles fun world other same holds =>
    ⟨ofFiles world other same holds.1, document_ofFiles _ _ world other same holds.2⟩)
    fun _ => .bind replaces fun _ => ?_
  exact quiet_ofFiles fun world other same holds =>
    ⟨ofFiles world other same holds.1, document_ofFiles _ _ world other same holds.2⟩

end Coldsnap.DiskBackend
