import Coldsnap.DiskBackend.Machine

/-! # Operations on the world

One definition for each call the backend makes into the memory provider, the
graph controller or the file system. A provider call on memory it may not touch
is recorded as a hazard and raises, as the driver does.
-/

namespace Coldsnap.DiskBackend

open Python Intervals Program List Checked

variable (nature : Nature) (setting : Setting)

/-- Time passes with every operation of the outside world. -/
instance : Machine Label World PyError PyError where
  act label effect := operation label fun world =>
    ((effect world).1, { (effect world).2 with tick := (effect world).2.tick + 1 })

def onBackend (update : Backend → Backend) : Action Unit :=
  assign fun world => { world with backend := update world.backend }

def backend {α : Type} (project : Backend → α) : Action α :=
  read fun world => project world.backend

structure HostStage where
  index : Nat
  capacity : Nat
deriving DecidableEq, Repr

def Setting.pool : List Allocation :=
  setting.weights ++ setting.discardRegions.flatMap setting.regionAllocations

def cudaError : PyError := runtimeError "CUDA error: invalid argument"

def Device.accessible (device : Device) (pool : List Allocation) (pointer count : Int) : Bool :=
  pool.any fun allocation => device.mapped allocation.pointer
    && allocation.pointer ≤ pointer && pointer + count ≤ allocation.stop

def Device.hazard (device : Device) (hazard : Hazard) : Device :=
  { device with hazards := device.hazards ++ [hazard] }

/-- Run a transfer on a range which must be mapped. -/
def touching (label : Label) (pointer count : Int) (effect : World → World) : Action Unit :=
  act label fun world =>
    if world.device.accessible setting.pool pointer count then
      (.ok (), effect world)
    else
      (.error cudaError,
        { world with device := world.device.hazard (.touchOfUnmapped pointer count) })

def validateCopy (stage : HostStage) (size : Nat) : Checked Unit :=
  require (0 < size && size ≤ stage.capacity)
    (valueError s!"copy size {size} exceeds host stage capacity {stage.capacity}")

def copyToHost (stage : HostStage) (pointer : Int) (size : Nat) : Action Unit := do
  ofExcept (validateCopy stage size)
  touching setting .copyToHost pointer size fun world =>
    { world with stages := fun index position =>
        if index = stage.index ∧ position < size then
          world.device.memory (pointer + position)
        else world.stages index position }

def Device.store (device : Device) (pointer : Int) (size : Nat) (byte : Nat → UInt8) : Device :=
  { device with
    memory := Bytes.overwrite device.memory pointer size byte
    written := device.written ++ [(pointer, pointer + size)] }

def copyFromHost (pointer : Int) (stage : HostStage) (size : Nat) : Action Unit := do
  ofExcept (validateCopy stage size)
  touching setting .copyFromHost pointer size fun world =>
    { world with device := world.device.store pointer size (world.stages stage.index) }

def Device.remapped (device : Device) (allocation : Allocation) (fresh : Int → UInt8) : Device :=
  { device with
    mapped := fun other => if other = allocation.pointer then true else device.mapped other
    memory := fun address =>
      if allocation.pointer ≤ address ∧ address < allocation.stop then fresh address
      else device.memory address }

def remap (allocation : Allocation) : Action Unit :=
  act (.remap allocation.pointer) fun world =>
    if world.device.mapped allocation.pointer then
      (.error cudaError, { world with
        device := world.device.hazard (.remapOfMapped allocation.pointer) })
    else
      (.ok (), { world with
        device := world.device.remapped allocation (nature.fresh world.tick) })

def isReleased (allocation : Allocation) : Action Bool :=
  read fun world => world.device.released allocation.pointer

end Coldsnap.DiskBackend
