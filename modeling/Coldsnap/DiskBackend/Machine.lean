import Coldsnap.DiskBackend.Layout
import Coldsnap.Foundation.Bytes
import Coldsnap.Foundation.Program

/-! # The world of the disk backend

Device memory with its mappings, the files of the snapshot directory, and the
fields of the backend object, together with the operations the backend performs
on them. Every operation may raise instead of taking effect.
-/

namespace Coldsnap.DiskBackend

open Python Intervals List

/-- A temporary sibling is the file `.<name>.<pid>.tmp` next to a named one. -/
inductive Path where
  | snapshot (name : String)
  | scratch (name : String)
  | state
  | temporary (target : Path)
deriving DecidableEq, Repr

def Path.name : Path → String
  | .snapshot name => name
  | .scratch name => name
  | .state => "hibernate-state.json"
  | .temporary target => "." ++ target.name ++ ".tmp"

/-- What the text decoder makes of the bytes of a file. -/
inductive Meaning where
  | raw
  | text (value : String)
  | document (value : Json)

structure File where
  size : Int
  byte : Int → UInt8
  meaning : Meaning
  device : Int
  inode : Int
  modified : Int
  changed : Int

structure Stat where
  device : Int
  inode : Int
  bytes : Int
  modified : Int
  changed : Int
deriving DecidableEq, Repr

def File.stat (file : File) : Stat :=
  ⟨file.device, file.inode, file.size, file.modified, file.changed⟩

def Stat.toJson (stat : Stat) : Json :=
  .obj [("device", .int stat.device), ("inode", .int stat.inode), ("bytes", .int stat.bytes),
    ("mtime_ns", .int stat.modified), ("ctime_ns", .int stat.changed)]

def statMatches [Builtins] (expected : Json) (actual : Stat) : Checked Bool :=
  match expected.asDict with
  | none => .error ⟨.attributeError, "object has no attribute 'get'"⟩
  | some fields =>
    Checked.foldEach
      (fun (matching : Bool) (field : String × Int) =>
        if matching then do
          let recorded ← (fields.getD field.1 (.int (-1))).toInt
          return recorded == field.2
        else return false)
      true
      [("device", actual.device), ("inode", actual.inode), ("bytes", actual.bytes),
        ("mtime_ns", actual.modified), ("ctime_ns", actual.changed)]

def File.contents (file : File) : List UInt8 :=
  Bytes.slice file.byte 0 file.size.toNat

/-- What must never happen to device memory. -/
inductive Hazard where
  | remapOfMapped (pointer : Int)
  | touchOfUnmapped (pointer : Int) (count : Int)
deriving DecidableEq, Repr

/-- The tagged pool as the provider sees it. Mappings and release flags are kept
for each allocation, under its pointer. -/
structure Device where
  mapped : Int → Bool
  released : Int → Bool
  memory : Int → UInt8
  hazards : List Hazard
  written : List (Int × Int)

inductive VerifyMode where
  | inline
  | preverified
deriving DecidableEq, Repr

def VerifyMode.text : VerifyMode → String
  | .inline => "inline"
  | .preverified => "preverified"

inductive HydrationBackend where
  | auto
  | direct
  | buffered
  | gds
deriving DecidableEq, Repr

/-- What one process of the backend is configured with. The allocator keeps its
allocations apart; the constructor refuses other chunk sizes, and GDS without
preverified artifacts. -/
structure Setting where
  weights : List Allocation
  discardRegions : List String
  regionAllocations : String → List Allocation
  chunkBytes : Nat
  verifyMode : VerifyMode
  writeDirect : Bool
  hydrator : Option HydrationBackend
  captureTransport : Bool
  pid : Int
  rank : Int
  workerId : String
  host : String
  captureId : String
  processTemplateRestored : Bool
  modelPayloadCaptureEnabled : Bool
  reuseRequested : Bool
  reserveBytes : Int
  modelSource : Checked Dict
  pool_tidy : Tidy ((weights ++ discardRegions.flatMap regionAllocations).map Allocation.range)
  weights_tagged : ∀ allocation ∈ weights, allocation.tag = preservedRegion
  chunk_aligned : 0 < chunkBytes ∧ chunkBytes % 4096 = 0
  gds_preverified : hydrator = some .gds → verifyMode = .preverified
  rank_nonneg : 0 ≤ rank

theorem Setting.weights_tidy (setting : Setting) : Tidy (setting.weights.map Allocation.range) := by
  have tidy := setting.pool_tidy
  rw [map_append] at tidy
  exact ⟨fun span member => tidy.1 span (mem_append_left _ member), (pairwise_append.mp tidy.2).1⟩

/-- What the outside answers, indexed by the time of the question: how many
bytes a transfer moves, what fresh pages hold, how a document is encoded. -/
structure Nature where
  transfer : Nat → Nat
  fresh : Nat → Int → UInt8
  available : Nat → Int
  opensDirect : Nat → Bool
  encode : Json → List UInt8

structure Backend where
  manifestPath : Path
  blobPath : Path
  residualBlobPath : Path
  weightRecoverySource : String
  reuseBlob : Bool
  bindings : Bindings
  restoreMapped : List Int
  liveNativeManifest : Option Dict
  liveNativeResidualPath : Option Path
  modelPayloadExported : Bool
  nativeModelExecutionState : Json
  stageCount : Nat

structure World where
  device : Device
  files : Path → Option File
  stages : Nat → Nat → UInt8
  backend : Backend
  tick : Nat

inductive Label where
  | allocateHostStage
  | copyToHost
  | copyFromHost
  | hydrate
  | capture
  | remap (pointer : Int)
  | isFile
  | readText
  | unlink
  | syncDirectory
  | statvfs
  | openFile
  | preallocate
  | write
  | read
  | fdatasync
  | dropCache
  | close
  | replace
  | chmod
  | stat
  | mkstemp
  | validatePayload
  | writeDocument
deriving DecidableEq, Repr

abbrev Action (α : Type) := Program Label World PyError α

def Backend.initial (weightRecoverySource : String) (reuseBlob : Bool) : Backend where
  manifestPath := .snapshot "manifest.json"
  blobPath := .snapshot "weights.blob"
  residualBlobPath := .snapshot "weights.blob"
  weightRecoverySource := weightRecoverySource
  reuseBlob := reuseBlob
  bindings := Bindings.initial
  restoreMapped := []
  liveNativeManifest := none
  liveNativeResidualPath := none
  modelPayloadExported := false
  nativeModelExecutionState := .null
  stageCount := 0

def World.initial (fields : Backend) (memory : Int → UInt8) (files : Path → Option File) :
    World where
  device := ⟨fun _ => true, fun _ => false, memory, [], []⟩
  files := files
  stages _ _ := 0
  backend := fields
  tick := 0

/-- An outside which moves one byte at a time and hands out zeroed pages. -/
def Nature.plain : Nature where
  transfer _ := 0
  fresh _ _ := 0
  available _ := 1099511627776
  opensDirect _ := false
  encode _ := []

theorem Tidy.singleton {span : Int × Int} (above : 0 < span.1) (nonempty : span.1 < span.2) :
    Tidy [span] :=
  ⟨forall_mem_singleton.mpr ⟨above, nonempty⟩, pairwise_singleton _ _⟩

theorem page_positive : (0 : Int) < 4096 := by decide

def Setting.oneWeight (pointer size : Int) (above : 0 < pointer) (nonempty : 0 < size) :
    Setting where
  weights := [⟨pointer, size, "weights"⟩]
  discardRegions := []
  regionAllocations _ := []
  chunkBytes := 4096
  verifyMode := .inline
  writeDirect := false
  hydrator := none
  captureTransport := false
  pid := 7
  rank := 0
  workerId := "w0"
  host := "h0"
  captureId := ""
  processTemplateRestored := true
  modelPayloadCaptureEnabled := false
  reuseRequested := true
  reserveBytes := 0
  modelSource := .ok []
  pool_tidy := Tidy.singleton above (by simp only [Allocation.range, Allocation.stop]; omega)
  weights_tagged := by simp [preservedRegion]
  chunk_aligned := by decide
  gds_preverified := by simp
  rank_nonneg := by decide

end Coldsnap.DiskBackend
