import Coldsnap.Coordinator.Protocol

/-! # The clients of the coordinator

`internal/coord/client.go` and `internal/coord/endpoint.go`: what a caller asks for,
and the request which is made of it. Texts are their UTF-8 bytes.
-/

namespace Coldsnap.Coordinator

structure Endpoint where
  address : Bytes
  scope : Bytes
  token : Bytes
deriving DecidableEq, Repr

def isBlank (byte : UInt8) : Bool := byte = 32 || byte = 9 || byte = 13 || byte = 10

def Endpoint.Valid (endpoint : Endpoint) : Prop :=
  (endpoint.address ≠ [] ∧ endpoint.scope ≠ [] ∧ endpoint.token ≠ []) ∧
    ∀ value ∈ [endpoint.address, endpoint.scope, endpoint.token], value.any isBlank = false

instance (endpoint : Endpoint) : Decidable endpoint.Valid :=
  inferInstanceAs (Decidable (_ ∧ _))

/-- A call of a client. A wait is in milliseconds. -/
inductive ClientCall where
  | health
  | set (key value : Bytes)
  | get (key : Bytes) (wait : Nat)
  | delete (key : Bytes)
  | add (key : Bytes) (delta : Int)
  | append (key value : Bytes)
deriving DecidableEq, Repr

def scopedKey (scope key : Bytes) : Bytes := scope ++ ascii "/" ++ key

def ClientCall.requestWith (sentKey : Bytes → Bytes) (token : Bytes) : ClientCall → Request
  | .health => ⟨.health, 0, token, [], []⟩
  | .set key value => ⟨.set, 0, token, sentKey key, value⟩
  | .get key wait => ⟨.get, wait, token, sentKey key, []⟩
  | .delete key => ⟨.delete, 0, token, sentKey key, []⟩
  | .add key delta => ⟨.add, 0, token, sentKey key, formatInt delta⟩
  | .append key value => ⟨.append, 0, token, sentKey key, value⟩

def Endpoint.request (endpoint : Endpoint) (call : ClientCall) : Request :=
  call.requestWith (scopedKey endpoint.scope) endpoint.token

def ClientCall.key? : ClientCall → Option Bytes
  | .health => none
  | .set key _ => some key
  | .get key _ => some key
  | .delete key => some key
  | .add key _ => some key
  | .append key _ => some key

end Coldsnap.Coordinator
