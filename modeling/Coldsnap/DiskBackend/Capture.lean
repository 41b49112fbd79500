import Coldsnap.DiskBackend.FileOperations
import Coldsnap.DiskBackend.Relocation
import Coldsnap.Foundation.Chunks

/-! # Capturing device ranges into files

The chunked copy from device memory through a host stage into a file, with its
running checksums, the read-back verification, and the snapshot of a live
residual for a relocated native manifest.
-/

namespace Coldsnap.DiskBackend

open Python Crc32 Chunks Program

variable (nature : Nature) (setting : Setting)

/-- The running checksums of a capture: of the extent by CRC-32, of the extent
and of the whole file by the bytes fed to SHA-256 so far. -/
structure Digests where
  crc : BitVec 32
  extent : List UInt8
  whole : List UInt8

def padBytes (padded : Bool) (bytes : List UInt8) : List UInt8 :=
  if padded then bytes ++ List.replicate ((alignUp bytes.length).toNat - bytes.length) 0
  else bytes

def padStage (stage : HostStage) (start stop : Nat) : Action Unit :=
  assign fun world => { world with
    stages := fun index position =>
      if index = stage.index ∧ start ≤ position ∧ position < stop then 0
      else world.stages index position }

/-- One chunk: device to stage, checksum, stage to file. A padded chunk is
filled with zeros up to the next 4096-byte boundary. -/
def captureChunk (path : Path) (stage : HostStage) (pointer offset : Int) (padded : Bool)
    (digests : Digests) (piece : Nat × Nat) : Action Digests := do
  copyToHost setting stage (pointer + piece.1) piece.2
  let view ← stageBytes stage piece.2
  let count := if padded then (alignUp piece.2).toNat else piece.2
  padStage stage piece.2 count
  let filled ← stageBytes stage count
  writeAllAt nature path stage count (offset + piece.1)
  return ⟨crc32 view digests.crc, digests.extent ++ view, digests.whole ++ filled⟩

def captureRange (path : Path) (stage : HostStage) (pointer : Int) (size : Nat) (offset : Int)
    (padded : Bool) (whole : List UInt8) : Action Digests :=
  foldEach (captureChunk nature setting path stage pointer offset padded)
    ⟨0, [], whole⟩ (chunks setting.chunkBytes size)

/-- What the verification reads back: where an extent lies in the file and the
checksum it must have. -/
structure Stored where
  pointer : Int
  size : Nat
  offset : Int
  crc : String

def verifyChunk (path : Path) (stage : HostStage) (offset : Int) (crc : BitVec 32)
    (piece : Nat × Nat) : Action (BitVec 32) := do
  readExactAt nature path stage piece.2 (offset + piece.1)
  let view ← stageBytes stage piece.2
  return crc32 view crc

def verifyStored (path : Path) (stage : HostStage) (verified : Nat) (stored : Stored) :
    Action Nat := do
  let crc ← foldEach (verifyChunk nature path stage stored.offset) 0
    (chunks setting.chunkBytes stored.size)
  require (hex8 crc = stored.crc) (runtimeError
    s!"snapshot post-write checksum mismatch for allocation {stored.pointer}: expected {stored.crc}, got {hex8 crc}")
  return verified + stored.size

def verifyBlob (entries : List Stored) (expectedVerified : Int) (direct : Bool) (path : Path) :
    Action Unit := do
  let stage ← hostStage setting
  let openedDirect ← openForReading nature path direct
  finallyDo (do
    let verified ← foldEach (verifyStored nature setting path stage) 0 entries
    require ((verified : Int) = expectedVerified)
      (runtimeError "snapshot post-write verification length mismatch")
    if !openedDirect then dropCache)
    closeFile

def captureResidual [Builtins] (path : Path) (stage : HostStage)
    (written : Int × List (Dict × Stored)) (extent : Dict) :
    Action (Int × List (Dict × Stored)) := do
  let size ← ofExcept (extent.int "size")
  let pointer ← ofExcept (extent.int "ptr")
  let digests ← captureRange nature setting path stage pointer size.toNat written.1 false []
  let record := (extent.set "offset" (.int written.1)).set "crc32" (.str (hex8 digests.crc))
  return (written.1 + max size 0,
    written.2 ++ [(record, ⟨pointer, size.toNat, written.1, hex8 digests.crc⟩)])

def reboundManifest (manifest : Dict) (path : Path) (bytes : Int) (stat : Stat)
    (extents : List Dict) (preverified : Bool) : Dict :=
  Dict.update (manifest.pop "residual_layout")
    [("residual_blob", .str path.name), ("residual_blob_bytes", .int bytes),
      ("residual_blob_stat", stat.toJson), ("residual_bytes", .int bytes),
      ("residual_extents", .arr (extents.map .obj)), ("preverified", .bool preverified),
      ("live_residual_snapshot", .bool true)]

def makeScratch : Action Path :=
  act .mkstemp fun world =>
    let path := Path.scratch s!"coldsnap-live-residual-{setting.pid}-{world.tick}.blob"
    (.ok path, world.setFile path (some (emptyFile world.tick)))

def discardingOnError {α : Type} (path : Path) (body : Action α) : Action α :=
  recover body fun error => do
    unlink path
    raise error

def snapshotLiveNativeResidual [Builtins] (manifest : Dict) : Action Dict := do
  match extentList (manifest.get "residual_extents") with
  | none => raise (runtimeError "portable native live residual layout is invalid")
  | some extents => do
    let residualBytes ← ofExcept (sumSizes extents)
    require (0 < residualBytes) (runtimeError "portable native live residual layout is empty")
    ensureSpace nature setting residualBytes
    let stage ← hostStage setting
    let path ← makeScratch setting
    let written ← recover (do
      preallocate path residualBytes
      let written ← foldEach (captureResidual nature setting path stage) (0, []) extents
      require (written.1 = residualBytes)
        (runtimeError "portable native live residual byte count changed during write")
      fdatasync
      dropCache
      return written) (fun error => do
        closeFile
        unlink path
        raise error)
    closeFile
    let stat ← discardingOnError path (do
      chmod path
      let stat ← statIdentity path
      if setting.verifyMode = .preverified then do
        verifyBlob nature setting (written.2.map Prod.snd) residualBytes false path
        statIdentity path
      else return stat)
    onBackend fun fields => { fields with residualBlobPath := path }
    let rebound := reboundManifest manifest path residualBytes stat
      (written.2.map Prod.fst) (setting.verifyMode = .preverified)
    let previous ← backend (·.liveNativeResidualPath)
    match previous with
    | some old => if old ≠ path then unlink old
    | none => pure ()
    onBackend fun fields => { fields with
      liveNativeManifest := some rebound
      liveNativeResidualPath := some path }
    return rebound

end Coldsnap.DiskBackend
