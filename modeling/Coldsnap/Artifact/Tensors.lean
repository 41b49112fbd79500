import Coldsnap.Foundation.Intervals
import Coldsnap.Foundation.Python
import Coldsnap.Foundation.Strides

/-! # Tensors and their storages

The registered tensors of a model, as `integrations/core/coldsnap_core/artifact.py`
looks at them: the storages they view, and what is recorded about each of them.
-/

namespace Coldsnap.Artifact

open Python Intervals Checked

/-- An untyped storage: `data_ptr()`, `nbytes()` and the device index of its
tensors, `None` counting as zero. -/
structure Storage where
  pointer : Int
  nbytes : Nat
  device : Nat
deriving DecidableEq, Repr

def Storage.range (storage : Storage) : Int × Int :=
  (storage.pointer, storage.pointer + storage.nbytes)

/-- A view lies inside its storage. -/
structure Tensor where
  storage : Storage
  cuda : Bool
  dtype : String
  elementSize : Nat
  shape : List Nat
  stride : List Nat
  offset : Nat
  element_positive : 0 < elementSize
  inside : ∀ byte ∈ Strides.bytes elementSize offset shape stride, byte < storage.nbytes

def Tensor.numel (tensor : Tensor) : Nat := Strides.count tensor.shape

def Tensor.bytes (tensor : Tensor) : List Nat :=
  Strides.bytes tensor.elementSize tensor.offset tensor.shape tensor.stride

def Tensor.value (tensor : Tensor) (memory : Int → UInt8) : List UInt8 :=
  tensor.bytes.map fun byte : Nat => memory (tensor.storage.pointer + byte)

/-- What PyTorch lists for a model. The allocator keeps storages apart, and a CUDA
storage which holds something has an address. -/
structure Model where
  modules : List (String × List String)
  parameters : List (String × Tensor)
  buffers : List (String × Tensor)
  apart : ∀ left ∈ parameters ++ buffers, ∀ right ∈ parameters ++ buffers,
    left.2.storage ≠ right.2.storage → Apart left.2.storage.range right.2.storage.range
  placed : ∀ item ∈ parameters ++ buffers, 0 < item.2.storage.nbytes → 0 < item.2.storage.pointer

def artifactError (message : String) : PyError := runtimeError message

def quoted [Builtins] (text : String) : String := Builtins.render (.str text)

def Model.nonpersistentBuffers (model : Model) : List String :=
  model.modules.flatMap fun entry => entry.2.map fun name =>
    if entry.1 = "" then name else entry.1 ++ "." ++ name

def register [Builtins] (kind : String) (nonpersistent : List String)
    (tensors : List (String × Tensor)) (item : String × Tensor) :
    Checked (List (String × Tensor)) :=
  if kind = "buffer" ∧ item.1 ∈ nonpersistent then .ok tensors
  else if item.2.cuda = true ∧ 0 < item.2.numel then
    let key := kind ++ ":" ++ item.1
    if key ∈ tensors.map Prod.fst then
      .error (artifactError s!"duplicate registered tensor {quoted key}")
    else .ok (tensors ++ [(key, item.2)])
  else .ok tensors

def registeredCudaTensors [Builtins] (model : Model) : Checked (List (String × Tensor)) := do
  let parameters ← foldEach (register "parameter" model.nonpersistentBuffers) [] model.parameters
  let tensors ← foldEach (register "buffer" model.nonpersistentBuffers) parameters model.buffers
  require (tensors ≠ []) (artifactError "model has no registered CUDA tensors")
  return tensors

structure Reference where
  name : String
  dtype : String
  shape : List Nat
  stride : List Nat
  storageOffsetBytes : Int
  nbytes : Nat
deriving DecidableEq, Repr

def tensorReference (name : String) (tensor : Tensor) (storagePointer : Int) : Reference where
  name := name
  dtype := tensor.dtype
  shape := tensor.shape
  stride := tensor.stride
  storageOffsetBytes := tensor.storage.pointer + tensor.offset - storagePointer
  nbytes := tensor.numel * tensor.elementSize

def sizesJson (sizes : List Nat) : Json := .arr (sizes.map fun size : Nat => .int (size : Int))

def Reference.toDict (reference : Reference) : Dict :=
  [("name", .str reference.name), ("dtype", .str reference.dtype),
    ("shape", sizesJson reference.shape), ("stride", sizesJson reference.stride),
    ("storage_offset_bytes", .int reference.storageOffsetBytes), ("nbytes", .int reference.nbytes)]

structure Group where
  tensor : Tensor
  refs : List Reference

def addToGroup : List Group → String × Tensor → List Group
  | [], item => [⟨item.2, [tensorReference item.1 item.2 item.2.storage.pointer]⟩]
  | group :: groups, item =>
    if group.tensor.storage = item.2.storage then
      ⟨group.tensor, group.refs ++ [tensorReference item.1 item.2 item.2.storage.pointer]⟩ :: groups
    else group :: addToGroup groups item

def Group.firstName (group : Group) : String :=
  match group.refs with
  | reference :: _ => reference.name
  | [] => ""

def storageGroups [Builtins] (model : Model) : Checked (List Group) := do
  let tensors ← registeredCudaTensors model
  return sortedOn Group.firstName ((sortedOn Prod.fst tensors).foldl addToGroup [])

end Coldsnap.Artifact
