import Coldsnap.Foundation.Bytes
import Coldsnap.Foundation.Intervals
import Coldsnap.Foundation.Python

/-! # Safetensors files

What `integrations/vllm/coldsnap_recovery_loader.py` reads out of the files of a
checkpoint: a descriptor for every tensor it will load.
-/

namespace Coldsnap.Recovery

open Python Intervals Checked

structure SafetensorDescriptor where
  name : String
  dtypeName : String
  shape : List Int
  fileOffset : Nat
  length : Nat
deriving DecidableEq, Repr

def SafetensorDescriptor.range (descriptor : SafetensorDescriptor) : Nat × Nat :=
  (descriptor.fileOffset, descriptor.fileOffset + descriptor.length)

/-- A file of the checkpoint. `header` is what `_read_safetensors_header` returns for
it: where the data starts, and the entries of the tensors. -/
structure CheckpointFile where
  filename : String
  absolutePath : String
  size : Nat
  byte : Int → UInt8
  header : Checked (Nat × Dict)

def dtypeNames : List String :=
  ["BOOL", "U8", "I8", "I16", "U16", "I32", "U32", "I64", "U64", "F16", "BF16", "F32", "F64",
    "F8_E4M3", "F8_E5M2", "F8_E8M0"]

def asInt : Json → Option Int
  | .int value => some value
  | _ => none

def asInts (value : Json) : Option (List Int) :=
  value.asList >>= fun items => items.mapM asInt

section Descriptors

variable [Builtins]

def invalidMetadata (name path : String) : PyError :=
  runtimeError s!"invalid safetensors metadata for {Builtins.render (.str name)} in {path}"

def entryFields (path name : String) (raw : Dict) : Checked (String × List Int × Int × Int) :=
  match (raw.get "dtype").asString, asInts (raw.get "shape"), asInts (raw.get "data_offsets") with
  | some dtypeName, some shape, some [start, stop] =>
    if dtypeName ∈ dtypeNames then .ok (dtypeName, shape, start, stop)
    else .error (invalidMetadata name path)
  | _, _, _ => .error (invalidMetadata name path)

def headerEntry (path : String) (dataOffset fileBytes : Nat) (item : String × Json) :
    Checked ((Nat × Nat × String) × SafetensorDescriptor) := do
  require (item.1 ≠ "") (runtimeError s!"invalid tensor entry in {path}")
  let raw ← item.2.asDict.elim (.error (runtimeError s!"invalid tensor entry in {path}")) .ok
  let (dtypeName, shape, start, stop) ← entryFields path item.1 raw
  require (0 ≤ start && start ≤ stop && dataOffset + stop ≤ fileBytes)
    (runtimeError s!"invalid safetensors range for {Builtins.render (.str item.1)} in {path}")
  return ((start.toNat, stop.toNat, item.1),
    ⟨item.1, dtypeName, shape, dataOffset + start.toNat, (stop - start).toNat⟩)

def checkOverlap (path : String) (previousEnd : Nat) (range : Nat × Nat × String) :
    Checked Nat := do
  require (previousEnd ≤ range.1)
    (runtimeError s!"overlapping safetensors range for {Builtins.render (.str range.2.2)} in {path}")
  return range.2.1

def matchesPrefix (name : String) (prefixes : Option (List String)) : Bool :=
  match prefixes with
  | none => true
  | some [] => true
  | some prefixes => prefixes.any fun first => first.toList.isPrefixOf name.toList

def indexedFile (index : List (String × String)) (name : String) : Option String :=
  (index.find? fun item => item.1 = name).map Prod.snd

def descriptors (file : CheckpointFile) (index : Option (List (String × String)))
    (prefixes : Option (List String)) : Checked (List SafetensorDescriptor) := do
  let (dataOffset, header) ← file.header
  let entries ← mapEach (headerEntry file.filename dataOffset file.size) header
  let _ ← foldEach (checkOverlap file.filename) 0
    (sortedOn (fun range : Nat × Nat × String => toLex (range.1, toLex range.2))
      (entries.map Prod.fst))
  let result := (entries.map Prod.snd).filter fun descriptor =>
    (index.elim true fun index => indexedFile index descriptor.name = some file.absolutePath) &&
      matchesPrefix descriptor.name prefixes
  return match index with
    | none => sortedOn SafetensorDescriptor.fileOffset result
    | some index => sortedOn (fun descriptor => index.findIdx fun item =>
      item.1 = descriptor.name ∧ item.2 = file.absolutePath) result

end Descriptors

/-! ## Any header -/

section Headers

open List

/-- How `json.loads` fails: with one of the two errors which are caught, or another one. -/
inductive LoadsFailure where
  | unicodeDecodeError
  | jsonDecodeError
  | other (error : PyError)

def CheckpointFile.headerBytes (file : CheckpointFile) : Nat :=
  (Bytes.slice file.byte 0 8).foldr (fun byte value => byte.toNat + 256 * value) 0

def CheckpointFile.payload (file : CheckpointFile) : List UInt8 :=
  Bytes.slice file.byte 8 file.headerBytes

variable (loads : List UInt8 → Except LoadsFailure Json) (file : CheckpointFile)
  (index : Option (List (String × String)))

def readSafetensorsHeader : Checked (Nat × Dict) := do
  require (8 ≤ file.size) (runtimeError s!"invalid safetensors header in {file.filename}")
  require (0 < file.headerBytes && file.headerBytes ≤ 268435456)
    (runtimeError s!"invalid safetensors header size {file.headerBytes} in {file.filename}")
  require (8 + file.headerBytes ≤ file.size)
    (runtimeError s!"short safetensors header in {file.filename}")
  let header ← (loads file.payload).mapError fun
    | .other error => error
    | _ => runtimeError s!"invalid safetensors JSON header in {file.filename}"
  let header ← header.asDict.elim
    (.error (runtimeError s!"safetensors header is not an object in {file.filename}")) .ok
  let metadata := Dict.get header "__metadata__"
  require (metadata.asDict.isSome || metadata matches .null)
    (runtimeError s!"invalid safetensors metadata in {file.filename}")
  return (8 + file.headerBytes, Dict.pop header "__metadata__")

def readDescriptors [Builtins] (prefixes : Option (List String)) :
    Checked (List SafetensorDescriptor) :=
  descriptors { file with header := readSafetensorsHeader loads file } index prefixes

/-- The loader's own error, or one of `json.loads` which it does not catch. -/
def Refused (error : PyError) : Prop :=
  error.kind = .runtimeError ∨ loads file.payload = .error (.other error)

/-- The key which `_descriptors` sorts by. -/
def CheckpointFile.position (descriptor : SafetensorDescriptor) : Nat :=
  index.elim descriptor.fileOffset fun index => index.findIdx fun item =>
    item.1 = descriptor.name ∧ item.2 = file.absolutePath

structure Placed (result : List SafetensorDescriptor) : Prop where
  inside : ∀ descriptor ∈ result, 8 + file.headerBytes ≤ descriptor.range.1 ∧
    descriptor.range.2 ≤ file.size
  apart : (result.map SafetensorDescriptor.range).Pairwise Apart
  listed : ∀ names ∈ index, ∀ descriptor ∈ result, (descriptor.name, file.absolutePath) ∈ names
  ordered : result.Pairwise fun left right => file.position index left ≤ file.position index right

/-- The span of an entry of `occupied` in the file. -/
def occupiedRange (dataOffset : Nat) (range : Nat × Nat × String) : Nat × Nat :=
  (dataOffset + range.1, dataOffset + range.2.1)

/-- A descriptor beside its entry of `occupied`. -/
structure Recorded (dataOffset fileBytes : Nat)
    (entry : (Nat × Nat × String) × SafetensorDescriptor) : Prop where
  range : entry.2.range = occupiedRange dataOffset entry.1
  forward : entry.1.1 ≤ entry.1.2.1
  fits : entry.2.range.2 ≤ fileBytes

variable {loads file index} {path name : String} {dataOffset fileBytes : Nat}

theorem Refused.own {message : String} : Refused loads file (runtimeError message) := .inl rfl

open Refused

theorem readSafetensorsHeader_ensures :
    Ensures (fun header => header.1 = 8 + file.headerBytes) (Refused loads file)
      (readSafetensorsHeader loads file) := by
  refine .bind (.require own) fun _ _ => .bind (.require own) fun _ _ =>
    .bind (.require own) fun _ _ => .bind ?_ fun _ (_ : True) =>
    .bind (.elim own) fun _ _ => .bind (.require own) fun _ _ => .ok rfl
  cases loaded : loads file.payload with
  | ok header => exact .ok trivial
  | error failure =>
    cases failure with
    | other error => exact .error (.inr loaded)
    | unicodeDecodeError => exact .error own
    | jsonDecodeError => exact .error own

theorem indexedFile_mem {index : List (String × String)}
    (found : indexedFile index name = some path) : (name, path) ∈ index := by
  obtain ⟨item, first, rfl⟩ := Option.map_eq_some_iff.mp found
  have named : item.1 = name := by simpa using find?_some first
  exact named ▸ mem_of_find?_eq_some first

section Ranges

variable [Builtins]

theorem headerEntry_ensures (item : String × Json) :
    Ensures (Recorded dataOffset fileBytes) (Refused loads file)
      (headerEntry path dataOffset fileBytes item) := by
  refine .bind (.require own) fun _ _ => .bind (.elim own) fun raw _ =>
    .bind ?_ fun fields (_ : True) => .bind (.require own) fun _ inside => .ok ?_
  · rw [entryFields]
    split
    · split
      · exact .ok trivial
      · exact .error own
    · exact .error own
  · simp only [Bool.and_eq_true, decide_eq_true_eq] at inside
    constructor
    all_goals
      simp only [SafetensorDescriptor.range, occupiedRange, Prod.mk.injEq, true_and]
      omega

variable {ranges : List (Nat × Nat × String)}

theorem checkOverlap_ensures (dataOffset : Nat) :
    (∀ range ∈ ranges, range.1 ≤ range.2.1) → ∀ previousEnd,
      Ensures (fun _ => Ascends (dataOffset + previousEnd) (ranges.map (occupiedRange dataOffset)))
        (Refused loads file) (foldEach (checkOverlap path) previousEnd ranges) := by
  induction ranges with
  | nil => exact fun _ _ => .ok trivial
  | cons range rest induction =>
    intro forward previousEnd
    have step : Ensures (fun next => previousEnd ≤ range.1 ∧ next = range.2.1) (Refused loads file)
        (checkOverlap path previousEnd range) :=
      .bind (.require own) fun _ after => .ok ⟨of_decide_eq_true after, rfl⟩
    refine step.bind ?_
    rintro _ ⟨after, rfl⟩
    obtain ⟨first, others⟩ := forall_mem_cons.mp forward
    exact (induction others _).imp fun _ ascends =>
      ⟨Nat.add_le_add_left after _, Nat.add_le_add_left first _, ascends⟩

variable {entries : List ((Nat × Nat × String) × SafetensorDescriptor)}

theorem recorded_apart (recorded : ∀ entry ∈ entries, Recorded dataOffset fileBytes entry)
    (perm : ranges.Perm (entries.map Prod.fst)) :
    Ensures (fun _ => (entries.map fun entry => entry.2.range).Pairwise Apart) (Refused loads file)
      (foldEach (checkOverlap path) 0 ranges) := by
  have forward : ∀ range ∈ ranges, range.1 ≤ range.2.1 := by
    intro range member
    obtain ⟨entry, listed, rfl⟩ := mem_map.mp (perm.mem_iff.mp member)
    exact (recorded entry listed).forward
  refine (checkOverlap_ensures dataOffset forward 0).imp fun _ ascends => ?_
  have apart := (perm.map (occupiedRange dataOffset)).pairwise
    (ascends.pairwise.imp Before.apart) Apart.symm
  rw [map_congr_left fun entry member => (recorded entry member).range]
  simpa [Function.comp_def] using apart

omit [Builtins] in
theorem recorded_placed
    (recorded : ∀ entry ∈ entries, Recorded (8 + file.headerBytes) file.size entry)
    (apart : (entries.map fun entry => entry.2.range).Pairwise Apart)
    {selected : List SafetensorDescriptor} (chosen : selected.Sublist (entries.map Prod.snd))
    (listed : ∀ names ∈ index, ∀ descriptor ∈ selected,
      (descriptor.name, file.absolutePath) ∈ names) :
    Placed file index (sortedOn (file.position index) selected) := by
  have perm := sortedOn_perm (file.position index) selected
  refine ⟨fun descriptor member => ?_, ?_, fun names named descriptor member => ?_,
    sortedOn_pairwise _ _⟩
  · obtain ⟨entry, found, rfl⟩ := mem_map.mp (chosen.subset (perm.subset member))
    have ⟨range, _, fits⟩ := recorded entry found
    exact ⟨range ▸ Nat.le_add_right _ _, fits⟩
  · refine (perm.symm.map _).pairwise (Pairwise.sublist (chosen.map _) ?_) Apart.symm
    rwa [map_map]
  · exact listed names named descriptor (perm.subset member)

variable (loads file index)

/-- The descriptors which are returned are in place. Nothing is raised but the error of the
loader, or one of `json.loads` which it does not catch. -/
theorem readDescriptors_ensures (prefixes : Option (List String)) :
    Ensures (Placed file index) (Refused loads file)
      (readDescriptors loads file index prefixes) := by
  refine .bind readSafetensorsHeader_ensures ?_
  rintro ⟨_, header⟩ rfl
  refine .bind (.mapEach headerEntry_ensures header) fun entries recorded =>
    .bind (recorded_apart recorded (sortedOn_perm _ _)) fun _ apart => .ok ?_
  cases index with
  | none => exact recorded_placed recorded apart filter_sublist nofun
  | some index =>
    refine recorded_placed recorded apart filter_sublist ?_
    rintro _ ⟨⟩ descriptor member
    have chosen := (mem_filter.mp member).2
    exact indexedFile_mem (of_decide_eq_true (Bool.and_eq_true_iff.mp chosen).1)

end Ranges

def shortText : List UInt8 :=
  "\x7b\"w\":\x7b\"dtype\":\"F32\",\"shape\":[2],\"data_offsets\":[0,1]\x7d\x7d".toList.map
    fun character => character.toNat.toUInt8

def shortFile : CheckpointFile where
  filename := "model.safetensors"
  absolutePath := "/model/model.safetensors"
  size := 63
  byte offset := (54 :: replicate 7 0 ++ shortText).getD offset.toNat 0
  header := .error (runtimeError "")

def shortLoads (payload : List UInt8) : Except LoadsFailure Json :=
  if payload = shortText then
    .ok (.obj [("w", .obj [("dtype", .str "F32"), ("shape", .arr [.int 2]),
      ("data_offsets", .arr [.int 0, .int 1])])])
  else .error .jsonDecodeError

/-- A tensor of eight bytes is given one. What `json.loads` raises on a header which is nested
too deeply is not caught. -/
theorem readDescriptors_short :
    @readDescriptors shortLoads shortFile none .decimal none = .ok [⟨"w", "F32", [2], 62, 1⟩] ∧
    ∀ error, @readDescriptors (fun _ => .error (.other error)) shortFile none .decimal none =
      .error error :=
  ⟨by decide +kernel, fun _ => rfl⟩

end Headers

/-! ## Selecting descriptors -/

/-- What a rank leaves out of the checkpoint: experts of other ranks, and the names
which were replayed. -/
structure RankFilter where
  localExpertIds : Option (List Int)
  skipSourceNames : List String

/-- What all ranks share: the checkpoint, the options, `should_skip_weight` of vLLM and
the element sizes of the installed torch. -/
structure Source where
  files : List CheckpointFile
  index : Option (List (String × String))
  namePrefix : String
  weightNamePrefixes : Option (List String)
  fileWeightFilter : Option (String → Bool)
  stagingBytes : Nat
  collectiveBytes : Nat
  shouldSkipWeight : String → Option (List Int) → Bool
  elementSize : String → Option Nat
  staging_positive : 0 < stagingBytes
  collective_positive : 0 < collectiveBytes

def Source.ordered (source : Source) : List CheckpointFile :=
  sortedOn CheckpointFile.filename source.files

section Select

variable [Builtins]

/-- The descriptors of a file which a rank loads, in the order of the file. -/
def selectDescriptors (source : Source) (filter : RankFilter) (file : CheckpointFile) :
    Checked (List SafetensorDescriptor) := do
  let all ← descriptors file source.index source.weightNamePrefixes
  return sortedOn SafetensorDescriptor.fileOffset (all.filter fun descriptor =>
    !source.shouldSkipWeight descriptor.name filter.localExpertIds &&
      source.namePrefix ++ descriptor.name ∉ filter.skipSourceNames)

end Select

end Coldsnap.Recovery
