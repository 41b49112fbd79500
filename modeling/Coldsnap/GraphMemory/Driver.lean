import Coldsnap.Foundation.Intervals
import Coldsnap.Foundation.Program

/-! # The driver under the graph allocator

The part of the CUDA driver and runtime which the graph memory allocator calls:
reserved ranges of virtual addresses, physical handles, mappings and access
rights, and the current device of each thread. A call which fails changes
nothing.
-/

namespace Coldsnap.GraphMemory

open Intervals Program Function

/-- A reserved range of virtual addresses. `held` is the handle which was mapped
there last, as long as nobody has released it. -/
structure Range where
  size : Nat
  mapping : Option Nat
  held : Option Nat
  accessible : Bool
deriving DecidableEq, Repr

/-- The reserved ranges, by their first address, and the live handles. Nothing is
reserved outside `known`. -/
structure Driver where
  ranges : Nat → Option Range
  handles : List Nat
  known : List Nat
  ranges_known : ∀ address, address ∉ known → ranges address = none

def Driver.initial : Driver := ⟨fun _ => none, [], [], fun _ _ => rfl⟩

variable (driver : Driver) (address size : Nat) (hardware : Hardware)

def Driver.setRange (address : Nat) (range : Option Range) : Driver where
  ranges := update driver.ranges address range
  handles := driver.handles
  known := address :: driver.known
  ranges_known := by
    intro other unknown
    rw [List.mem_cons, not_or] at unknown
    rw [update_of_ne unknown.1]
    exact driver.ranges_known other unknown.2

/-- The allocator's record of one range. -/
structure Allocation where
  address : Nat
  rawSize : Nat
  mappedSize : Nat
  device : Int
  tag : String
  poolId : Nat
  handle : Nat
  handleValid : Bool
  mapped : Bool
  accessible : Bool
deriving DecidableEq, Repr

def addressSpace : Nat := 18446744073709551616

/-- What the machine decides: granularities, error texts, which handles and
addresses the driver hands out, and where a hash table puts a new element. -/
structure Hardware where
  granularity : Int → Nat
  errorName : Nat → Option String
  errorString : Nat → Option String
  runtimeName : Nat → String
  runtimeString : Nat → String
  loaderError : Option String
  pickHandle : List Nat → Nat
  pickAddress : Driver → Nat → Option Nat
  arrange : List Allocation → Allocation → List Allocation
  pickHandle_fresh : ∀ handles, pickHandle handles ∉ handles
  pickAddress_new : ∀ {driver size address}, pickAddress driver size = some address →
    driver.ranges address = none
  pickAddress_inside : ∀ {driver size address}, pickAddress driver size = some address →
    0 < address ∧ address + size ≤ addressSpace
  pickAddress_apart : ∀ {driver size address}, pickAddress driver size = some address →
    ∀ {other range}, driver.ranges other = some range →
      Apart (address, address + size) (other, other + range.size)
  arrange_perm : ∀ allocations allocation,
    (arrange allocations allocation).Perm (allocation :: allocations)

def invalidValue : Nat := 1

def Driver.create (driver : Driver) : Except Nat (Nat × Driver) :=
  let handle := hardware.pickHandle driver.handles
  .ok (handle, { driver with handles := handle :: driver.handles })

def Range.without (range : Range) (handle : Nat) : Range :=
  if range.held = some handle then { range with held := none } else range

def Driver.without (handle : Nat) : Driver where
  ranges address := (driver.ranges address).map (·.without handle)
  handles := driver.handles.filter (· ≠ handle)
  known := driver.known
  ranges_known address unknown := by rw [driver.ranges_known address unknown, Option.map_none]

def Driver.release (handle : Nat) : Except Nat (Unit × Driver) :=
  if handle ∈ driver.handles then .ok ((), driver.without handle) else .error invalidValue

def Driver.reserve (driver : Driver) (size : Nat) : Except Nat (Nat × Driver) :=
  match hardware.pickAddress driver size with
  | some address => .ok (address, driver.setRange address (some ⟨size, none, none, false⟩))
  | none => .error invalidValue

/-- A call on a range which was reserved with this size. -/
def Driver.onRange (fits : Range → Prop)
    [DecidablePred fits] (change : Range → Option Range) : Except Nat (Unit × Driver) :=
  match driver.ranges address with
  | some range =>
    if range.size = size ∧ fits range then .ok ((), driver.setRange address (change range))
    else .error invalidValue
  | none => .error invalidValue

def Driver.addressFree : Except Nat (Unit × Driver) :=
  driver.onRange address size (·.mapping = none) fun _ => none

def Driver.map (handle : Nat) : Except Nat (Unit × Driver) :=
  driver.onRange address size (fun range => range.mapping = none ∧ handle ∈ driver.handles)
    fun _ => some ⟨size, some handle, some handle, false⟩

def Range.unmapped (range : Range) : Range := { range with mapping := none, accessible := false }

def Driver.unmap : Except Nat (Unit × Driver) :=
  driver.onRange address size (·.mapping.isSome) fun range => some range.unmapped

def Driver.setAccess : Except Nat (Unit × Driver) :=
  driver.onRange address size (·.mapping.isSome) fun range => some { range with accessible := true }

structure RegionScope where
  tag : String
  device : Int
  poolId : Nat
deriving DecidableEq, Repr

/-- What belongs to one thread; the innermost scope stands first. -/
structure Thread where
  device : Int
  regionScopes : List RegionScope
  lastError : String
deriving DecidableEq, Repr

structure World where
  driver : Driver
  allocations : List Allocation
  threads : Nat → Thread
  activeScopeCount : Nat

def World.initial : World :=
  ⟨Driver.initial, [], fun _ => ⟨0, [], ""⟩, 0⟩

def World.onThread (world : World) (thread : Nat) (update : Thread → Thread) : World :=
  { world with threads := Function.update world.threads thread (update (world.threads thread)) }

inductive UnmapSite where
  | allocate
  | pause
  | resume
  | free
deriving DecidableEq, Repr

/-- Where a release is called. In `resume_allocation` it is called for a handle
kept from before, after a failed map, and after failed access rights. -/
inductive ReleaseSite where
  | allocate
  | pause
  | retry
  | resumeMap
  | resumeAccess
  | free
deriving DecidableEq, Repr

inductive Label where
  | getDevice
  | setDevice
  | restoreDevice
  | synchronize
  | init
  | deviceGet
  | granularity
  | create
  | reserve
  | addressFree
  | map
  | setAccess
  | unmap (site : UnmapSite)
  | release (site : ReleaseSite)
  | resolve
  | forward
deriving DecidableEq, Repr

/-- How a call ends which does not succeed: with a result of the driver, with a
result of the runtime, or with what a function of the library returns. -/
inductive Failure where
  | driver (result : Nat)
  | runtime (result : Nat)
  | status (code : Nat)
deriving DecidableEq, Repr

abbrev Action (α : Type) := Program Label World Failure α

def drive {α : Type} (label : Label) (effect : Driver → Except Nat (α × Driver)) : Action α :=
  operation label fun world =>
    match effect world.driver with
    | .ok (value, driver) => (.ok value, { world with driver := driver })
    | .error result => (.error (.driver result), world)

instance : Machine Label World Failure Failure where
  act := operation

def setError (thread : Nat) (message : String) : Action Unit :=
  assign fun world => world.onThread thread fun fields =>
    { fields with lastError := message }

def Hardware.describe (failure : Failure) (operation : String) : String :=
  match failure with
  | .driver result =>
    operation ++ " failed" ++ (hardware.errorName result).elim "" (" with " ++ ·)
      ++ (hardware.errorString result).elim "" (": " ++ ·)
  | .runtime result =>
    operation ++ " failed with " ++ hardware.runtimeName result ++ ": "
      ++ hardware.runtimeString result
  | .status _ => operation

def checked {α : Type} (hardware : Hardware) (thread : Nat) (operation : String)
    (call : Action α) : Action α :=
  recover call fun failure =>
    Program.bind (setError thread (hardware.describe failure operation)) fun _ =>
      raise failure

def ignoring (call : Action Unit) : Action Unit :=
  recover call fun _ => Program.pure ()

def refuse {α : Type} (thread : Nat) (message : String) (code : Nat) : Action α :=
  Program.bind (setError thread message) fun _ => raise (.status code)

def cudaGetDevice (thread : Nat) : Action Int :=
  operation .getDevice fun world => (.ok (world.threads thread).device, world)

def cudaSetDevice (label : Label) (thread : Nat) (device : Int) : Action Unit :=
  operation label fun world =>
    (.ok (), world.onThread thread fun fields => { fields with device := device })

def deviceGuard {α : Type} (hardware : Hardware) (thread : Nat) (requested : Int)
    (body : Action α) : Action α := do
  let original ← checked hardware thread "cudaGetDevice" (cudaGetDevice thread)
  onlyIf (requested != original)
    (checked hardware thread "cudaSetDevice" (cudaSetDevice .setDevice thread requested))
  finallyDo body (onlyIf (requested != original)
    (ignoring (cudaSetDevice .restoreDevice thread original)))

def synchronizeDevice (thread : Nat) (device : Int) : Action Unit :=
  deviceGuard hardware thread device
    (checked hardware thread "cudaDeviceSynchronize" (quiet .synchronize))

end Coldsnap.GraphMemory
