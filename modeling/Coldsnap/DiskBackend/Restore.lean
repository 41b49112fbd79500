import Coldsnap.DiskBackend.Capture

/-! # Restoring weight allocations

Remapping the released allocations, and moving file ranges into device memory:
chunk by chunk through one host stage, through the native hydrator, or through
the pipeline whose reads run ahead in pool threads.
-/

namespace Coldsnap.DiskBackend

open Python Crc32 Chunks Program Checked

variable (nature : Nature) (setting : Setting)

def entriesByPointer [Builtins] (manifest : Dict) : Checked (List (Int × Dict)) :=
  match (manifest.get "entries").asDicts with
  | none => .error (typeError "manifest entries are not a list of objects")
  | some entries => mapEach (fun entry => do
    let pointer ← Dict.int entry "ptr"
    return (pointer, entry)) entries

def findEntry (entries : List (Int × Dict)) (pointer : Int) : Option Dict :=
  (entries.reverse.find? fun entry => entry.1 = pointer).map Prod.snd

def mapForRestore (allocation : Allocation) (released : Bool) (restoreMapped : List Int) :
    Action Unit :=
  if released && !(allocation.pointer ∈ restoreMapped) then do
    remap nature allocation
    onBackend fun fields =>
      { fields with restoreMapped := fields.restoreMapped ++ [allocation.pointer] }
  else
    require (!(!released && allocation.pointer ∈ restoreMapped)) (runtimeError
      s!"live weight allocation {allocation.pointer} was published during an incomplete restore")

def remapWeightAllocation [Builtins] (entries : List (Int × Dict)) (ordered : List Dict)
    (allocation : Allocation) : Action (List Dict) := do
  let absent := runtimeError s!"live weight allocation {allocation.pointer} is absent from snapshot"
  match findEntry entries allocation.pointer with
  | none => raise absent
  | some entry => do
    let size ← ofExcept (entry.int "size")
    require (size = allocation.size) absent
    let released ← isReleased allocation
    let restoreMapped ← backend (·.restoreMapped)
    mapForRestore nature allocation released restoreMapped
    return ordered ++ [entry]

def remapWeightAllocations [Builtins] (manifest : Dict) : Action (List Dict) := do
  let entries ← ofExcept (entriesByPointer manifest)
  foldEach (remapWeightAllocation nature entries) [] setting.weights

def hexPairs : List Char → Bool
  | [] => true
  | first :: rest =>
    if first.isWhitespace then hexPairs rest
    else
      match rest with
      | [] => false
      | second :: rest =>
        first ∈ "0123456789abcdef".toList && second ∈ "0123456789abcdef".toList && hexPairs rest

structure HydrationExtent where
  fileOffset : Int
  destination : Int
  length : Int
  crc : Option String

def HydrationExtent.check (extent : HydrationExtent) : Checked HydrationExtent := do
  require (!(extent.fileOffset < 0 || extent.destination ≤ 0 || extent.length ≤ 0))
    (valueError "hydration extent offset, destination, and length are invalid")
  require (extent.crc.all fun text => text.length == 8 && hexPairs text.toList)
    (valueError "hydration CRC32 must be eight lowercase hex digits")
  return extent

def hydrationExtent [Builtins] (entry : Dict) : Checked HydrationExtent := do
  let fileOffset ← entry.int "offset"
  let destination ← entry.int "ptr"
  let length ← entry.int "size"
  let crc ← entry.item "crc32"
  HydrationExtent.check ⟨fileOffset, destination, length, some crc.toText⟩

def HydrationExtent.fill (extent : HydrationExtent) (file : File) (device : Device) : Device :=
  device.store extent.destination extent.length.toNat
    fun index => file.byte (extent.fileOffset + index)

variable (path : Path) (extents : List HydrationExtent)

/-- The native pipeline fills one extent, and then compares its checksum. -/
def hydrateExtent (preverified : Bool) (extent : HydrationExtent) : Action Unit :=
  act .hydrate fun world =>
    if world.device.accessible setting.pool extent.destination extent.length then
      match world.files path with
      | none => (.error (missing path), world)
      | some file =>
        if file.size < extent.fileOffset + extent.length then
          (.error (runtimeError "native hydration reached the end of the file"), world)
        else
          let bytes := Bytes.slice file.byte extent.fileOffset extent.length.toNat
          let verified := preverified || extent.crc.all fun text => text == hex8 (crc32 bytes 0)
          (if verified then .ok () else .error (runtimeError "native hydration CRC32 mismatch"),
            { world with device := extent.fill file world.device })
    else
      (.error cudaError, { world with
        device := world.device.hazard (.touchOfUnmapped extent.destination extent.length) })

def hydrate (backend : HydrationBackend) (preverified : Bool) : Action Unit := do
  require (!extents.isEmpty) (valueError "hydration requires at least one extent")
  require (!(backend = .gds && !preverified))
    (runtimeError "GDS cannot validate device-direct bytes")
  forEach (hydrateExtent setting path preverified) extents

/-- Keep the aligned interior of an extent on direct I/O and route only its edges
buffered: the pieces for the direct call and for the buffered one. -/
def splitDirectExtent (extent : HydrationExtent) : List HydrationExtent × List HydrationExtent :=
  let start := extent.fileOffset
  splitBlocks 4096 start (start + extent.length) extent
    (fun length => ⟨start, extent.destination, length, none⟩)
    (fun offset length => ⟨offset, extent.destination + offset - start, length, none⟩)

def splitDirectHydrationExtents : List HydrationExtent × List HydrationExtent :=
  (extents.flatMap fun extent => (splitDirectExtent extent).1,
    extents.flatMap fun extent => (splitDirectExtent extent).2)

def hydrateExact (backend : HydrationBackend) : Action Unit :=
  if (backend = .auto || backend = .direct) && setting.verifyMode = .preverified then do
    let split := splitDirectHydrationExtents extents
    onlyIf (!split.1.isEmpty) (hydrate setting path split.1 .direct true)
    onlyIf (!split.2.isEmpty) (hydrate setting path split.2 .buffered true)
  else
    hydrate setting path extents (if backend = .direct then .buffered else backend)
      (setting.verifyMode = .preverified)

def restoreChunk (stage : HostStage) (destination offset : Int) (crc : BitVec 32)
    (piece : Nat × Nat) : Action (BitVec 32) := do
  readExactAt nature path stage piece.2 (offset + piece.1)
  let view ← stageBytes stage piece.2
  copyFromHost setting (destination + piece.1) stage piece.2
  return if setting.verifyMode = .inline then crc32 view crc else crc

def restoreExtent (stage : HostStage) (label : String)
    (item : HydrationExtent × Json) : Action Unit := do
  let crc ← foldEach
    (restoreChunk nature setting path stage item.1.destination item.1.fileOffset) 0
    (chunks setting.chunkBytes item.1.length.toNat)
  require (!(setting.verifyMode = .inline && !item.2.equal (.str (hex8 crc))))
    (runtimeError s!"{label} checksum mismatch for {item.1.destination}")

def restoreStaged (label : String) (items : List (HydrationExtent × Json)) :
    Action Unit := do
  let stage ← hostStage setting
  let _ ← openForReading nature path false
  finallyDo (forEach (restoreExtent nature setting path stage label) items) closeFile

def restoreExactExtents [Builtins] (path : Path) (extents : List Dict) (label : String) :
    Action Unit := do
  let exact ← ofExcept (mapEach hydrationExtent extents)
  let checksums := extents.map fun extent => extent.get "crc32"
  match setting.hydrator with
  | some backend => hydrateExact setting path exact backend
  | none => restoreStaged nature setting path label (exact.zip checksums)

def manifestExtents (manifest : Dict) (key : String) : Checked (List Dict) :=
  match (manifest.get key).asDicts with
  | none => .error (keyError key)
  | some extents => .ok extents

def restoreSplitNative [Builtins] (manifest : Dict) : Action Unit := do
  let _ ← remapWeightAllocations nature setting manifest
  let model ← ofExcept (manifestExtents manifest "model_weight_extents")
  let blobPath ← backend (·.blobPath)
  restoreExactExtents nature setting blobPath model "model payload"
  let residual ← ofExcept (manifestExtents manifest "residual_extents")
  let residualPath ← backend (·.residualBlobPath)
  restoreExactExtents nature setting residualPath residual "runtime residual"

end Coldsnap.DiskBackend
