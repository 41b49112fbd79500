import Coldsnap.GraphMemory.Driver
import Mathlib.Data.List.Dedup

/-! # The graph memory allocator

The functions of `coldsnap_graph_memory.cpp`. A function which returns `false`
after `set_error` raises here; the exported functions turn what was raised into
their return code.
-/

namespace Coldsnap.GraphMemory

open Program Driver

inductive AllocationState where
  | active
  | paused
  | partiallyMapped
deriving DecidableEq, Repr

variable (allocation : Allocation)

def Allocation.state : AllocationState :=
  if allocation.mapped && allocation.handleValid && allocation.accessible then .active
  else if !allocation.mapped && !allocation.handleValid && !allocation.accessible then .paused
  else .partiallyMapped

def Allocation.isSelected (tag : String) (device : Int) : Bool :=
  (tag == "" || allocation.tag == tag) && (device < 0 || allocation.device == device)

def store (allocations : List Allocation) : List Allocation :=
  allocations.map fun other => if other.address = allocation.address then allocation else other

def keep : Action Unit :=
  assign fun world =>
    { world with allocations := store allocation world.allocations }

def cudaErrorMemoryAllocation : Nat := 2
def cudaErrorInvalidDevice : Nat := 101
def cudaErrorUnknown : Nat := 999
def outOfMemory : Failure := .driver 2

section Functions

variable (hardware : Hardware) (thread : Nat)

def synchronizeMatchingDevices (tag : String) (device : Int) : Action Unit := do
  let allocations ← read World.allocations
  let devices := (allocations.filter (·.isSelected tag device)).map Allocation.device
  forEach (synchronizeDevice hardware thread) (devices.dedup.insertionSort (· ≤ ·))

def sizeMax : Nat := addressSpace - 1

def mappedSize (granularity rawSize : Nat) : Except String Nat :=
  if granularity = 0 then .error "cuMemGetAllocationGranularity returned zero"
  else if rawSize > sizeMax - (granularity - 1) then
    .error "CUDA graph allocation size overflows VMM granularity"
  else .ok ((rawSize + granularity - 1) / granularity * granularity)

def allocationProperties (device : Int) (rawSize : Nat) : Action Nat := do
  checked hardware thread "cuInit" (quiet .init)
  checked hardware thread "cuDeviceGet" (quiet .deviceGet)
  checked hardware thread "cuMemGetAllocationGranularity" (quiet .granularity)
  match mappedSize (hardware.granularity device) rawSize with
  | .ok size => return size
  | .error message => refuse thread message cudaErrorUnknown

def setAccess (address size : Nat) : Action Unit :=
  checked hardware thread "cuMemSetAccess" (drive .setAccess (·.setAccess address size))

def abandon (address size : Nat) (handle : Nat) : Action Unit := do
  ignoring (drive .addressFree (·.addressFree address size))
  ignoring (drive (.release .allocate) (·.release handle))

def unwind (address size : Nat) (handle : Nat) : Action Unit := do
  ignoring (drive (.unmap .allocate) (·.unmap address size))
  abandon address size handle

/-- The mapping and the handle are dropped, whether the calls succeed or not. -/
def rollBack (mapped : Allocation) : Action Unit := do
  ignoring (drive (.unmap .resume) (·.unmap mapped.address mapped.mappedSize))
  ignoring (drive (.release .resumeAccess) (·.release mapped.handle))
  keep { mapped with handle := 0, handleValid := false, mapped := false }

/-- Run `undo` and leave with an unknown error if the call fails. -/
def orElse {α : Type} (call : Action α) (undo : Action Unit) : Action α :=
  recover call fun _ =>
    Program.bind undo fun _ => raise (.status cudaErrorUnknown)

def allocateScoped (rawSize : Nat) (scope : RegionScope) : Action Nat := do
  let current ← checked hardware thread "cudaGetDevice" (cudaGetDevice thread)
  onlyIf (0 ≤ scope.device && scope.device != current) (refuse thread
    ("CUDA graph allocation occurred on device " ++ toString current
      ++ " inside a region scoped to device " ++ toString scope.device) cudaErrorInvalidDevice)
  let size ← orElse (allocationProperties hardware thread current rawSize) (Program.pure ())
  let handle ← recover
    (checked hardware thread "cuMemCreate" (drive .create (create hardware)))
    fun failure => raise
      (.status (if failure = outOfMemory then cudaErrorMemoryAllocation else cudaErrorUnknown))
  let address ← orElse
    (checked hardware thread "cuMemAddressReserve"
      (drive .reserve fun driver => driver.reserve hardware size))
    (ignoring (drive (.release .allocate) (·.release handle)))
  orElse (checked hardware thread "cuMemMap" (drive .map (·.map address size handle)))
    (abandon address size handle)
  orElse (setAccess hardware thread address size) (unwind address size handle)
  let known ← read fun world => world.allocations.any (·.address == address)
  onlyIf known (orElse
    (refuse thread "duplicate CUDA graph virtual address reservation" cudaErrorUnknown)
    (unwind address size handle))
  let allocation : Allocation :=
    ⟨address, rawSize, size, current, scope.tag, scope.poolId, handle, true, true, true⟩
  assign fun world =>
    { world with allocations := hardware.arrange world.allocations allocation }
  return address

variable (allocation : Allocation)

def Allocation.withoutMapping : Allocation :=
  if allocation.mapped then { allocation with accessible := false, mapped := false }
  else allocation

def Allocation.withoutHandle : Allocation :=
  if allocation.handleValid then { allocation with handleValid := false, handle := 0 }
  else allocation

def releaseHandle (site : ReleaseSite) (operation : String) (allocation : Allocation) :
    Action Unit :=
  onlyIf allocation.handleValid do
    checked hardware thread operation (drive (.release site) (·.release allocation.handle))
    keep allocation.withoutHandle

def unmapRange (site : UnmapSite) (operation : String) (allocation : Allocation) : Action Unit :=
  onlyIf allocation.mapped do
    keep { allocation with accessible := false }
    checked hardware thread operation
      (drive (.unmap site) (·.unmap allocation.address allocation.mappedSize))
    keep allocation.withoutMapping

/-- The unmap and the release which `pause_allocation` and `cudaFree` share. -/
def dropBacking (unmapSite : UnmapSite) (releaseSite : ReleaseSite) (suffix : String)
    (allocation : Allocation) : Action Allocation := do
  unmapRange hardware thread unmapSite ("cuMemUnmap" ++ suffix) allocation
  let current := allocation.withoutMapping
  releaseHandle hardware thread releaseSite ("cuMemRelease" ++ suffix) current
  return current.withoutHandle

def pauseAllocation : Action Unit :=
  deviceGuard hardware thread allocation.device do
    let dropped ← dropBacking hardware thread .pause .pause "" allocation
    require (dropped.state = .paused) (.status cudaErrorUnknown)

def restoreBacking : Action Unit := do
  let size ← allocationProperties hardware thread allocation.device allocation.rawSize
  onlyIf (size != allocation.mappedSize) (refuse thread
    "CUDA VMM granularity changed while restoring graph backing" cudaErrorUnknown)
  let handle ← checked hardware thread "cuMemCreate(restore)" (drive .create (create hardware))
  orElse
    (checked hardware thread "cuMemMap(restore)"
      (drive .map (·.map allocation.address allocation.mappedSize handle)))
    (ignoring (drive (.release .resumeMap) (·.release handle)))
  let mapped : Allocation :=
    { allocation with handle := handle, handleValid := true, mapped := true, accessible := false }
  keep mapped
  orElse (setAccess hardware thread allocation.address allocation.mappedSize) (rollBack mapped)
  keep { mapped with accessible := true }

def resumeAllocation : Action Unit :=
  deviceGuard hardware thread allocation.device
    (onlyIf (allocation.state != .active) do
      onlyIf allocation.mapped (refuse thread
        "cannot recover a partially mapped CUDA graph allocation" cudaErrorUnknown)
      releaseHandle hardware thread .retry "cuMemRelease(retry)" allocation
      restoreBacking hardware thread allocation.withoutHandle)

def statusOf : Failure → Nat
  | .driver _ => cudaErrorUnknown
  | .runtime result => result
  | .status code => code

/-- Ask the loader for the runtime's own function and call it. -/
def forwardCall (name : String) : Action Nat := do
  recover (quiet .resolve) fun _ => refuse thread
    ("dlsym(RTLD_NEXT, " ++ name ++ ") failed: " ++ hardware.loaderError.getD "unknown error")
    cudaErrorUnknown
  quiet .forward
  return 0

def cudaMalloc (size : Nat) : Action (Nat × Option Nat) := do
  let scopes ← read fun world => (world.threads thread).regionScopes
  match scopes with
  | scope :: _ =>
    if size = 0 then
      let status ← recover (forwardCall hardware thread "cudaMalloc")
        fun failure => Program.pure (statusOf failure)
      return (status, none)
    else
      recover
        (Program.bind (allocateScoped hardware thread size scope)
          fun address => Program.pure (0, some address))
        fun failure => Program.pure (statusOf failure, none)
  | [] => do
    let status ← recover (forwardCall hardware thread "cudaMalloc")
      fun failure => Program.pure (statusOf failure)
    return (status, none)

def findRecord (pointer : Nat) (world : World) : Option Allocation :=
  world.allocations.find? (·.address == pointer)

def freeManaged (pointer : Nat) (allocation : Allocation) : Action Unit := do
  synchronizeDevice hardware thread allocation.device
  let found ← read (findRecord pointer)
  match found with
  | none =>
    refuse thread "managed CUDA graph allocation disappeared during cudaFree" cudaErrorUnknown
  | some current =>
    deviceGuard hardware thread current.device do
      let dropped ← dropBacking hardware thread .free .free "(cudaFree)" current
      checked hardware thread "cuMemAddressFree"
        (drive .addressFree (·.addressFree dropped.address dropped.mappedSize))
      assign fun world =>
        { world with allocations := world.allocations.filter (·.address != pointer) }

def cudaFree (pointer : Nat) : Action Nat := do
  let found ← read (findRecord pointer)
  match found with
  | none =>
    recover (forwardCall hardware thread "cudaFree") fun failure => Program.pure (statusOf failure)
  | some allocation =>
    recover
      (Program.bind (freeManaged hardware thread pointer allocation) fun _ => Program.pure 0)
      fun _ => Program.pure cudaErrorUnknown

def reporting (body : Action Unit) : Action Int :=
  recover (Program.bind body fun _ => Program.pure 0) fun _ => Program.pure (-1)

def regionPush (tag : String) (device : Int) (poolId : Nat) : Action Int :=
  reporting do
    onlyIf (tag == "") (refuse thread "CUDA graph region tag must not be empty" cudaErrorUnknown)
    onlyIf (0 ≤ device) do
      let current ← checked hardware thread "cudaGetDevice" (cudaGetDevice thread)
      onlyIf (current != device) (refuse thread
        "CUDA graph region device does not match the current CUDA device" cudaErrorUnknown)
    assign fun world =>
      { world.onThread thread fun fields =>
          { fields with regionScopes := ⟨tag, device, poolId⟩ :: fields.regionScopes } with
        activeScopeCount := world.activeScopeCount + 1 }

def regionPop : Action Int :=
  reporting do
    let scopes ← read fun world => (world.threads thread).regionScopes
    onlyIf scopes.isEmpty (refuse thread "CUDA graph region stack underflow" cudaErrorUnknown)
    assign fun world =>
      { world.onThread thread fun fields =>
          { fields with regionScopes := fields.regionScopes.tail } with
        activeScopeCount := world.activeScopeCount - 1 }

def graphPause (tag : String) (device : Int) : Action Int :=
  reporting do
    let scopes ← read World.activeScopeCount
    onlyIf (scopes != 0) (refuse thread
      "cannot pause CUDA graph backing during active graph capture" cudaErrorUnknown)
    synchronizeMatchingDevices hardware thread tag device
    let allocations ← read World.allocations
    forEach
      (fun allocation => onlyIf
        (allocation.isSelected tag device && allocation.state != .paused)
        (pauseAllocation hardware thread allocation))
      allocations

def graphResume (tag : String) (device : Int) : Action Int :=
  reporting do
    let scopes ← read World.activeScopeCount
    onlyIf (scopes != 0) (refuse thread
      "cannot resume CUDA graph backing during active graph capture" cudaErrorUnknown)
    let allocations ← read World.allocations
    forEach
      (fun allocation => onlyIf (allocation.isSelected tag device)
        (resumeAllocation hardware thread allocation))
      allocations
    synchronizeMatchingDevices hardware thread tag device

end Functions

structure Stats where
  allocationCount : Nat
  rawBytes : Nat
  mappedBytes : Nat
  pausedCount : Nat
deriving DecidableEq, Repr

def addCounter (left right : Nat) : Nat := (left + right) % addressSpace

def Stats.count (stats : Stats) (allocation : Allocation) : Stats where
  allocationCount := addCounter stats.allocationCount 1
  rawBytes := addCounter stats.rawBytes allocation.rawSize
  mappedBytes := addCounter stats.mappedBytes allocation.mappedSize
  pausedCount := if allocation.state != .active then addCounter stats.pausedCount 1
    else stats.pausedCount

def regionStats (world : World) (tag : String) (device : Int) : Stats :=
  (world.allocations.filter (·.isSelected tag device)).foldl Stats.count ⟨0, 0, 0, 0⟩

/-- A call of the library by a thread. Threads may also select a device. -/
inductive Call where
  | regionPush (thread : Nat) (tag : String) (device : Int) (poolId : Nat)
  | regionPop (thread : Nat)
  | malloc (thread : Nat) (size : Nat)
  | free (thread : Nat) (pointer : Nat)
  | pause (thread : Nat) (tag : String) (device : Int)
  | resume (thread : Nat) (tag : String) (device : Int)
  | select (thread : Nat) (device : Int)
deriving DecidableEq, Repr

abbrev Schedule := List (Label → Option Failure)

def Call.perform (hardware : Hardware) : Call → Action Unit
  | .regionPush thread tag device poolId => do
    let _ ← GraphMemory.regionPush hardware thread tag device poolId
  | .regionPop thread => do let _ ← GraphMemory.regionPop thread
  | .malloc thread size => do let _ ← cudaMalloc hardware thread size
  | .free thread pointer => do let _ ← cudaFree hardware thread pointer
  | .pause thread tag device => do let _ ← graphPause hardware thread tag device
  | .resume thread tag device => do let _ ← graphResume hardware thread tag device
  | .select thread device => ignoring (cudaSetDevice .setDevice thread device)

/-- The state after a sequence of calls, each under its own schedule of driver
failures. -/
def runCalls (hardware : Hardware) (world : World) (calls : List (Call × Schedule)) : World :=
  calls.foldl (fun reached call => (call.1.perform hardware reached call.2).state) world

end Coldsnap.GraphMemory
