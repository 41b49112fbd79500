import Coldsnap.Artifact.Resolving

/-! # What a restore does to device memory

Each resolved storage receives the bytes saved for it, once, and nothing else is
written.
-/

namespace Coldsnap.Artifact

open Python Program Intervals Crc32 Sha256 Chunks List Checked Bytes

/-- A storage to restore: the fresh tensor which leads to it, the saved group and
where the group lies in the blob. -/
abbrev Row := Tensor × (Group × Nat)

def savedBytes (saved : Int → UInt8) (row : Row) : List UInt8 :=
  row.2.1.tensor.storage.view saved

def recordRow (saved : Int → UInt8) (row : Row) : Tensor × Dict := (row.1, entryOf saved row.2)

/-- Rows whose storages are apart, each of the size of its saved bytes. -/
structure Tidy (rows : List Row) : Prop where
  sizes : ∀ row ∈ rows, row.1.storage.nbytes = row.2.1.tensor.storage.nbytes
  apart : rows.Pairwise fun left right => Apart left.1.storage.range right.1.storage.range
  nonempty : ∀ row ∈ rows, 0 < row.1.storage.nbytes
  placed : ∀ row ∈ rows, 0 < row.1.storage.pointer

variable {row : Row}

theorem savedBytes_length {rows : List Row} (tidy : Tidy rows) (saved : Int → UInt8)
    (member : row ∈ rows) : (savedBytes saved row).length = row.1.storage.nbytes := by
  rw [savedBytes, Storage.view_length, tidy.sizes row member]

theorem Tidy.perm {rows others : List Row} (tidy : Tidy rows) (order : rows.Perm others) :
    Tidy others where
  sizes row member := tidy.sizes row (order.mem_iff.mpr member)
  apart := tidy.apart.perm order fun apart => apart.symm
  nonempty row member := tidy.nonempty row (order.mem_iff.mpr member)
  placed row member := tidy.placed row (order.mem_iff.mpr member)

theorem Tidy.initial {rows some : List Row} (tidy : Tidy rows) (starts : some <+: rows) :
    Tidy some where
  sizes row member := tidy.sizes row (starts.subset member)
  apart := tidy.apart.sublist starts.sublist
  nonempty row member := tidy.nonempty row (starts.subset member)
  placed row member := tidy.placed row (starts.subset member)

/-- The storages of the rows hold the saved bytes, each of their bytes was written
once, and no other byte was written. -/
structure Hydrated (saved : Int → UInt8) (start : World) (rows : List Row) (world : World) :
    Prop where
  written : ∀ row ∈ rows, row.1.storage.view world.memory = savedBytes saved row
  outside : ∀ point, (∀ row ∈ rows, ¬Contains row.1.storage.range point) →
    world.memory point = start.memory point
  copies : ∃ new, world.copies = start.copies ++ new ∧ ∀ point,
    coverCount new point = coverCount (rows.map fun row => row.1.storage.range) point

structure Received (middle : World) (pointer : Int) (bytes : List UInt8) (world : World) :
    Prop where
  memory : world.memory = put middle.memory pointer bytes
  copies : ∃ new, world.copies = middle.copies ++ new ∧
    walk pointer new = some (pointer + bytes.length)

theorem Received.start (middle : World) (pointer : Int) : Received middle pointer [] middle where
  memory := (put_nil _ _).symm
  copies := ⟨[], (append_nil _).symm, by simp [walk]⟩

variable {middle : World}

theorem Received.store {world : World} {pointer : Int} {bytes : List UInt8}
    (received : Received middle pointer bytes world) (view : List UInt8)
    (nonempty : 0 < view.length) :
    Received middle pointer (bytes ++ view) (world.store (pointer + bytes.length) view) where
  memory := by rw [World.store, received.memory, put_append]
  copies := by
    rcases received.copies with ⟨new, later, walked⟩
    refine ⟨new ++ [(pointer + bytes.length, pointer + bytes.length + view.length)], ?_, ?_⟩
    · rw [World.store, later, append_assoc]
    · apply walk_append walked
      rw [walk, if_pos ⟨rfl, by omega⟩, walk, length_append]
      congr 1
      omega

namespace Hydrated

variable {saved : Int → UInt8} {start world : World} {rows : List Row}

theorem nil (saved : Int → UInt8) (start : World) : Hydrated saved start [] start where
  written := nofun
  outside _ _ := rfl
  copies := ⟨[], (append_nil _).symm, fun _ => rfl⟩

theorem add (hydrated : Hydrated saved start rows middle) (tidy : Tidy (rows ++ [row]))
    (received : Received middle row.1.storage.pointer (savedBytes saved row) world) :
    Hydrated saved start (rows ++ [row]) world := by
  have last : row ∈ rows ++ [row] := mem_concat_self
  have length := savedBytes_length tidy saved last
  refine ⟨?_, ?_, ?_⟩
  · intro other member
    rw [received.memory]
    rcases mem_append.mp member with early | late
    · have away := (pairwise_append.mp tidy.apart).2.2 other early row
        (mem_singleton.mpr rfl)
      rw [← hydrated.written other early]
      apply slice_congr
      intro index bound
      apply overwrite_outside
      rw [length]
      intro inside
      exact away (other.1.storage.pointer + index)
        ⟨by simp only [Contains, Storage.range]; omega, inside⟩
    · cases mem_singleton.mp late
      rw [Storage.view, ← length, slice_put]
  · intro point free
    rw [received.memory, put, overwrite_outside]
    · apply hydrated.outside
      exact fun other member => free other (mem_append_left _ member)
    · rw [length]
      exact free row last
  · rcases hydrated.copies with ⟨before, earlier, cover⟩
    rcases received.copies with ⟨new, later, walked⟩
    refine ⟨before ++ new, by rw [later, earlier, append_assoc], ?_⟩
    intro point
    rw [map_append, coverCount_append, coverCount_append, cover,
      coverCount_of_walk point walked, length]
    rfl

theorem perm {other : List Row} (hydrated : Hydrated saved start rows world)
    (order : rows.Perm other) : Hydrated saved start other world where
  written row member := hydrated.written row (order.mem_iff.mpr member)
  outside point free := hydrated.outside point fun row member =>
    free row (order.mem_iff.mp member)
  copies := by
    rcases hydrated.copies with ⟨new, later, cover⟩
    refine ⟨new, later, fun point => ?_⟩
    rw [cover, coverCount_perm (order.map _)]

end Hydrated

/-- A file holds the saved bytes of the rows, the blob starting at an offset. -/
structure Source (saved : Int → UInt8) (blobOffset : Int) (rows : List Row) (file : File) :
    Prop where
  offset : 0 ≤ blobOffset
  inside : ∀ row ∈ rows, blobOffset + row.2.2 + row.1.storage.nbytes ≤ file.size
  holds : ∀ row ∈ rows, slice file.byte (blobOffset + row.2.2) row.1.storage.nbytes =
    savedBytes saved row

abbrev SameFiles (start world : World) : Prop := world.files = start.files

section Restore

variable {regime : Regime} {setting : Setting} {saved : Int → UInt8} {start : World}
variable {path : Path} {file : File} {blobOffset : Int} {preverified : Bool} {rows : List Row}

/-! ## Through the host -/

section Python

variable [Builtins]

def Digests (preverified : Bool) (digest : BitVec 32 × List UInt8) (bytes : List UInt8) : Prop :=
  preverified = false → digest = (crc32 bytes 0, bytes)

variable (present : start.files path = some file)

include present

theorem restoreChunk_keeps {position pointer : Int} {offset : Json} {stageSize nbytes : Nat}
    (small : stageSize ≤ transferLimit) (inside : 0 ≤ position ∧ position + nbytes ≤ file.size)
    {digest : BitVec 32 × List UInt8}
    {copied count : Nat} (piece : Piece stageSize nbytes copied count)
    (digests : Digests preverified digest (slice file.byte position copied)) :
    regime.Keeps (SameFiles start) (Received middle pointer (slice file.byte position copied))
      (restoreChunk setting path position offset preverified pointer digest (copied, count))
      fun next world =>
        Digests preverified next (slice file.byte position (copied + count)) ∧
        Received middle pointer (slice file.byte position (copied + count)) world := by
  have bounded := piece.bounded
  have within := piece.inside
  apply Contract.through fun view world =>
    view = slice file.byte (position + copied) count ∧
      Received middle pointer (slice file.byte position copied) world
  · apply ask_keeps
    intro world holds starts
    rw [holds, present]
    have all : min (min count transferLimit) ((file.size : Int) - (position + copied)).toNat =
        count := by omega
    simp only [all]
    exact ⟨rfl, starts⟩
  intro view
  apply Contract.assuming
  rintro rfl
  apply Contract.bindPasses (by simp)
  have grown := slice_append file.byte position copied count
  apply Contract.through fun _ =>
    Received middle pointer (slice file.byte position (copied + count))
  · apply act_keeps
    intro world holds received
    refine ⟨holds, ?_⟩
    have positive := piece.positive
    have stored := received.store (slice file.byte (position + copied) count)
      (by rw [slice_length]; exact positive)
    rw [slice_length, ← grown] at stored
    exact stored
  intro _
  apply Contract.pure
  intro world _ received
  refine ⟨?_, received⟩
  intro checked
  rw [checked, digests checked, grown]
  simp [crc32_append]

/-- One storage receives its bytes, and the digests agree. -/
theorem restoreStorage_keeps {stageSize : Nat} {restored : Int} (positive : 0 < stageSize)
    (small : stageSize ≤ transferLimit) (tidy : Tidy rows)
    (source : Source saved blobOffset rows file) (member : row ∈ rows) :
    regime.Keeps (SameFiles start) (fun world => world = middle)
      (restoreStorage setting path blobOffset stageSize preverified restored (recordRow saved row))
      fun _ => Received middle row.1.storage.pointer (savedBytes saved row) := by
  have size := tidy.sizes row member
  have inside := source.inside row member
  have offset := source.offset
  have holds := source.holds row member
  have nbytes : (recordRow saved row).2.int "nbytes" = .ok (row.1.storage.nbytes : Int) := by
    rw [size]
    rfl
  apply Contract.bindReturns (by rw [nbytes]; rfl)
  apply Contract.bindPasses (by rw [decide_eq_true_eq]; omega)
  apply Contract.bind (.starting _ (.chunks positive (fun digest copied world =>
    Digests preverified digest (slice file.byte (blobOffset + row.2.2) copied) ∧
      Received middle row.1.storage.pointer
        (slice file.byte (blobOffset + row.2.2) copied) world) _ _))
  rotate_left
  · rintro world _ rfl
    exact ⟨fun _ => by rw [slice_zero, crc32_nil], Received.start _ _⟩
  · intro digest copied count piece
    apply Contract.assuming
    intro digests
    exact restoreChunk_keeps present small ⟨by omega, inside⟩ piece digests
  intro digest
  rw [Int.toNat_natCast, holds]
  apply Contract.assuming
  intro digests
  apply Contract.through fun _ => Received middle row.1.storage.pointer (savedBytes saved row)
  · apply Contract.onlyIf
    · intro checked
      rw [digests (by simpa using checked)]
      apply Contract.bindPasses (by simp [recordRow, entryOf, entryRecord, Dict.get, Dict.lookup,
        savedBytes, Json.equal])
      apply Contract.require
      · intro fails
        simp [recordRow, entryOf, entryRecord, Dict.get, Dict.lookup, savedBytes,
          Json.equal] at fails
      · exact fun _ world _ received => received
    · exact fun _ world _ received => received
  intro _
  exact .pure fun _ _ => id

theorem restorePython_keeps {chunkBytes : Int} (positive : 0 < chunkBytes)
    (small : chunkBytes ≤ transferLimit) (tidy : Tidy rows) (listed : rows ≠ [])
    (source : Source saved blobOffset rows file) :
    regime.Keeps (SameFiles start) (Hydrated saved start [])
      (restorePython setting path blobOffset chunkBytes preverified (rows.map (recordRow saved)))
      fun _ => Hydrated saved start rows := by
  have sizes : mapEach (fun row : Tensor × Dict => row.2.int "nbytes")
      (rows.map (recordRow saved)) = .ok (rows.map fun row => (row.1.storage.nbytes : Int)) := by
    apply mapEach_map
    intro row member
    rw [tidy.sizes row member]
    rfl
  apply Contract.bindReturns (by rw [sizes]; rfl)
  have stage : 0 < min chunkBytes
      ((rows.map fun row => (row.1.storage.nbytes : Int)).foldl max 0) := by
    rcases exists_mem_of_ne_nil _ listed with ⟨row, member⟩
    have bound := (@le_foldl_max Int _ (rows.map fun row => (row.1.storage.nbytes : Int)) 0).2
      row.1.storage.nbytes (mem_map_of_mem member)
    have filled := tidy.nonempty row member
    omega
  apply Contract.bind allocateStage_keeps
  intro _
  apply Contract.through fun _ => Hydrated saved start []
  · apply ask_keeps
    intro world same starts
    rw [same, present]
    exact starts
  intro _
  rw [foldEach_map]
  apply Contract.through fun _ => Hydrated saved start rows
  · apply Contract.foldSeen (fun _ => Hydrated saved start)
    intro restored seen row rest split
    have member : row ∈ rows := by simp [split]
    have sofar : Tidy (seen ++ [row]) := by
      apply tidy.initial
      exact ⟨rest, by simp [split]⟩
    apply Contract.pinned
    intro middle hydrated
    apply Contract.ending _ (restoreStorage_keeps present (by omega) (by omega) tidy source member)
    exact fun _ world _ => hydrated.add sofar
  intro restored
  apply Contract.bind quiet_keeps
  intro _
  exact .pure fun _ _ => id

end Python

/-! ## Through a native hydrator -/

def extentFor (saved : Int → UInt8) (blobOffset : Int) (row : Row) : HydrationExtent where
  fileOffset := blobOffset + row.2.2
  destination := row.1.storage.pointer
  length := row.1.storage.nbytes
  crc32 := some (hex8 (Crc32.crc32 (savedBytes saved row) 0))
  sha256 := some (Sha256.sha256 (savedBytes saved row))

theorem isHex_of {length : Nat} {text : String} (size : text.length = length)
    (digits : ∀ character ∈ text.toList, character ∈ "0123456789abcdef".toList) :
    isHex length text = true := by
  simp only [isHex, Bool.and_eq_true, all_eq_true, decide_eq_true_eq]
  exact ⟨size, digits⟩

theorem extentOf_recordRow [Builtins] (tidy : Tidy rows) (offset : 0 ≤ blobOffset)
    (member : row ∈ rows) :
    extentOf blobOffset (recordRow saved row) = .ok (extentFor saved blobOffset row) := by
  have placed := tidy.placed row member
  have filled := tidy.nonempty row member
  have checked : makeExtent (blobOffset + row.2.2) row.1.storage.pointer row.1.storage.nbytes
      (some (hex8 (Crc32.crc32 (savedBytes saved row) 0)))
      (some (Sha256.sha256 (savedBytes saved row))) = .ok (extentFor saved blobOffset row) := by
    have room : (0 ≤ blobOffset + row.2.2 && 0 < row.1.storage.pointer &&
        0 < (row.1.storage.nbytes : Int)) = true := by
      simp only [Bool.and_eq_true, decide_eq_true_eq]
      omega
    simp only [makeExtent, room, Option.all_some, Option.isNone_some, Option.isSome_some,
      Bool.or_true, isHex_of (hex8_length _) (hex8_hex _),
      isHex_of (sha256_length _) (sha256_hex _), require_true, ok_bind]
    rfl
  rw [tidy.sizes row member] at checked
  exact checked

/-- Rows at which a hydration has arrived. -/
theorem hydrateAll_rows (preverified : Bool) (source : Source saved blobOffset rows file)
    {todo : List Row} :
    ∀ {done : List Row} {world : World}, Tidy (done ++ todo) → (∀ row ∈ todo, row ∈ rows) →
      Hydrated saved start done world → ∃ next,
        hydrateAll file preverified (todo.map (extentFor saved blobOffset)) world = (.ok (), next) ∧
        next.files = world.files ∧ Hydrated saved start (done ++ todo) next := by
  induction todo with
  | nil =>
    intro done world _ _ hydrated
    exact ⟨world, rfl, rfl, by rwa [append_nil]⟩
  | cons row todo induction =>
    intro done world tidy known hydrated
    have member := known row mem_cons_self
    have listed : row ∈ done ++ row :: todo := by simp
    have inside := source.inside row member
    have long : ¬(file.size : Int) < (extentFor saved blobOffset row).fileOffset +
        (extentFor saved blobOffset row).length := by
      simp only [extentFor]
      omega
    have view : slice file.byte (extentFor saved blobOffset row).fileOffset
        (extentFor saved blobOffset row).length.toNat = savedBytes saved row :=
      source.holds row member
    have verified : (extentFor saved blobOffset row).verifies (savedBytes saved row) = true := by
      simp [HydrationExtent.verifies, extentFor]
    rw [map_cons, hydrateAll, if_neg long]
    simp only [view, verified, Bool.or_true, if_true]
    have filled := tidy.nonempty row listed
    have length := savedBytes_length tidy saved listed
    have received := (Received.start world row.1.storage.pointer).store (savedBytes saved row)
      (by omega)
    rw [nil_append, length_nil, Nat.cast_zero, Int.add_zero] at received
    have sofar : Tidy (done ++ [row]) := tidy.initial ⟨todo, by simp⟩
    have later : Tidy ((done ++ [row]) ++ todo) := by
      rwa [append_assoc]
    rcases induction later (forall_mem_cons.mp known).2
      (hydrated.add sofar received) with ⟨next, ran, files, all⟩
    refine ⟨next, ran, files, ?_⟩
    rwa [append_assoc] at all

variable {backend : String} {chunkBytes queueDepth : Int}

theorem extentGroups_rows (setting : Setting) (saved : Int → UInt8) (blobOffset : Int)
    (named : backend ∈ ["auto", "direct", "buffered", "gds"]) (listed : rows ≠ []) :
    ∃ groups : List (String × List Row),
      extentGroups setting backend (rows.map (extentFor saved blobOffset)) =
        groups.map (fun group => (group.1, group.2.map (extentFor saved blobOffset))) ∧
      (groups.flatMap Prod.snd).Perm rows ∧
      ∀ group ∈ groups, group.2 ≠ [] ∧ group.1 ∈ ["buffered", "direct", "gds"] ∧
        (group.1 = "gds" → backend = "gds") := by
  unfold extentGroups
  split
  · let direct := backend = "direct" || setting.directAvailable
    let extent := extentFor saved blobOffset
    let fast := fun row => direct && (extent row).aligned
    have aligned : (if direct then (rows.map extent).filter HydrationExtent.aligned else []) =
        (rows.filter fast).map extent := by
      cases on : direct <;> simp [fast, on, filter_map, Function.comp_def]
    have residual : (if direct then (rows.map extent).filter (fun extent => !extent.aligned)
        else rows.map extent) = (rows.filter fun row => !fast row).map extent := by
      cases on : direct <;> simp [fast, on, filter_map, Function.comp_def]
    refine ⟨(if rows.filter fast = [] then [] else [("direct", rows.filter fast)]) ++
      (if (rows.filter fun row => !fast row) = [] then []
        else [("buffered", rows.filter fun row => !fast row)]), ?_, ?_, ?_⟩
    · simp only [direct, extent] at aligned residual
      simp only [aligned, residual, map_eq_nil_iff, map_append]
      congr 1 <;> split <;> rfl
    · have joined : ∀ (name : String) (part : List Row),
          (if part = [] then [] else [(name, part)]).flatMap Prod.snd = part := by
        intro name part
        split
        · rename_i empty
          rw [empty]
          rfl
        · exact append_nil part
      rw [flatMap_append, joined, joined]
      exact filter_append_perm fast rows
    · intro group member
      rcases mem_append.mp member with listed | listed
      all_goals
        split at listed
        · cases listed
        · rename_i filled
          cases mem_singleton.mp listed
          exact ⟨filled, by simp, by simp⟩
  · refine ⟨[(backend, rows)], rfl, by simp, ?_⟩
    rw [forall_mem_singleton]
    simp only [mem_cons, not_mem_nil, or_false] at named ⊢
    tauto

variable (present : start.files path = some file) (source : Source saved blobOffset rows file)
  (chunk : 0 < chunkBytes ∧ chunkBytes % 4096 = 0) (depth : 1 ≤ queueDepth ∧ queueDepth ≤ 64)

include present source chunk depth

theorem hydrate_keeps {done todo : List Row} (named : backend ∈ ["buffered", "direct", "gds"])
    (gds : backend = "gds" → preverified = true) (listed : todo ≠ [])
    (tidy : Tidy (done ++ todo)) (known : ∀ row ∈ todo, row ∈ rows) :
    regime.Keeps (SameFiles start) (Hydrated saved start done)
      (hydrate path (todo.map (extentFor saved blobOffset)) backend chunkBytes queueDepth
        preverified) fun _ => Hydrated saved start (done ++ todo) := by
  apply Contract.bindPasses (by simpa using listed)
  apply Contract.bindPasses (by simpa using chunk)
  apply Contract.bindPasses (by simpa using depth)
  apply Contract.bindPasses (by simpa using named)
  apply Contract.bindPasses (by
    simp only [Bool.or_eq_true, decide_eq_true_eq]
    exact or_iff_not_imp_left.mpr fun same => gds (not_not.mp same))
  apply Contract.bind (act_keeps ?_)
  · intro _
    exact .pure fun _ _ => id
  · intro world same hydrated
    rcases hydrateAll_rows preverified source tidy known hydrated with ⟨next, ran, files, all⟩
    rw [same, present]
    simp only [ran]
    exact ⟨files.trans same, all⟩

theorem hydrateNativeExtents_keeps (named : backend ∈ ["auto", "direct", "buffered", "gds"])
    (gds : backend = "gds" → preverified = true) (listed : rows ≠ []) (tidy : Tidy rows) :
    regime.Keeps (SameFiles start) (Hydrated saved start [])
      (hydrateNativeExtents setting path (rows.map (extentFor saved blobOffset)) backend chunkBytes
        queueDepth preverified) fun _ => Hydrated saved start rows := by
  rcases extentGroups_rows setting saved blobOffset named listed with ⟨groups, same, order, valid⟩
  rw [hydrateNativeExtents, same, foldEach_map]
  apply Contract.ending _
    (.foldSeen (fun _ seen => Hydrated saved start (seen.flatMap Prod.snd)) _ 0)
  · exact fun _ world _ hydrated => hydrated.perm order
  · intro restored seen group rest split
    have member : group ∈ groups := by simp [split]
    rcases valid group member with ⟨filled, backendNamed, onlyGds⟩
    have sofar : Tidy (seen.flatMap Prod.snd ++ group.2) := by
      apply (tidy.perm order.symm).initial
      exact ⟨rest.flatMap Prod.snd, by simp [split]⟩
    have known : ∀ row ∈ group.2, row ∈ rows := by
      intro row inside
      exact order.mem_iff.mp (mem_flatMap.mpr ⟨group, member, inside⟩)
    rw [flatMap_append, flatMap_singleton]
    apply Contract.bind (hydrate_keeps present source chunk depth backendNamed
      (fun same => gds (onlyGds same)) filled sofar known)
    intro bytes
    exact .pure fun _ _ => id

end Restore

end Coldsnap.Artifact
