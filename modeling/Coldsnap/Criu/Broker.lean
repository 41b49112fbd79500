import Mathlib.Algebra.Group.Nat.Defs
import Mathlib.Data.Finset.Basic
import Coldsnap.Foundation.Go
import Coldsnap.Foundation.Transitions

/-! # The broker of descriptors

`cmd/coldsnap-criu-rpc/internal/criurpc/fd_broker.go`: connections of which each carries one
message, over a store behind one lock. A descriptor is named by a number which no other
descriptor has had, rather than by that which the kernel gives it.
-/

namespace Coldsnap.Criu.Broker

open Go Transitions Function

inductive Kind where
  | e
  | m
  | v
deriving DecidableEq

structure Key where
  kind : Kind
  id : Nat
deriving DecidableEq

inductive Request where
  | put (key : Key)
  | fetch (take : Bool) (key : Key)
  | seal
  | status
deriving DecidableEq

def ascii (text : String) : List UInt8 := text.toList.map fun character => character.toNat.toUInt8

/-- How many bytes the white space takes with which some bytes start. -/
def spaceWidth : List UInt8 → Nat
  | 0x20 :: _ => 1
  | 0xC2 :: 0x85 :: _ => 2
  | 0xC2 :: 0xA0 :: _ => 2
  | 0xE1 :: 0x9A :: 0x80 :: _ => 3
  | 0xE2 :: 0x80 :: last :: _ =>
    if (0x80 ≤ last && last ≤ 0x8A) || last = 0xA8 || last = 0xA9 || last = 0xAF then 3 else 0
  | 0xE2 :: 0x81 :: 0x9F :: _ => 3
  | 0xE3 :: 0x80 :: 0x80 :: _ => 3
  | first :: _ => if 0x09 ≤ first && first ≤ 0x0D then 1 else 0
  | [] => 0

def fieldsFrom : Nat → List UInt8 → List UInt8 → List (List UInt8)
  | _, field, [] => if field = [] then [] else [field]
  | passing + 1, field, _ :: bytes => fieldsFrom passing field bytes
  | 0, field, byte :: bytes =>
    match spaceWidth (byte :: bytes) with
    | 0 => fieldsFrom 0 (field ++ [byte]) bytes
    | width + 1 =>
      if field = [] then fieldsFrom width [] bytes
      else field :: fieldsFrom width [] bytes

def fields (payload : List UInt8) : List (List UInt8) := fieldsFrom 0 [] payload

def parseUint (text : List UInt8) : Option Nat :=
  let value := text.foldl (fun value digit => 10 * value + (digit.toNat - 0x30)) 0
  if text ≠ [] && text.all (fun digit => 0x30 ≤ digit && digit ≤ 0x39) && value < 2 ^ 64 then
    some value
  else none

def parseKind (text : List UInt8) : Option Kind :=
  if text = ascii "E" then some .e
  else if text = ascii "M" then some .m
  else if text = ascii "V" then some .v
  else none

def parseKey (kind id : List UInt8) : Result Key :=
  match parseKind kind, parseUint id with
  | none, _ => .error "invalid FD broker object kind"
  | some _, none => .error "invalid FD broker object id"
  | some kind, some id => .ok ⟨kind, id⟩

def parseFDBrokerRequest (payload : List UInt8) : Result Request :=
  match fields payload with
  | protocol :: command :: rest =>
    if protocol ≠ ascii "COLDSNAP_FD_BROKER_V1" then .error "invalid FD broker protocol"
    else if command = ascii "SEAL" || command = ascii "STATUS" then
      if rest ≠ [] then .error "invalid FD broker control request"
      else .ok (if command = ascii "SEAL" then .seal else .status)
    else
      match rest with
      | [kind, id] =>
        if command = ascii "PUT" then .put <$> parseKey kind id
        else if command = ascii "GET" then .fetch false <$> parseKey kind id
        else if command = ascii "TAKE" then .fetch true <$> parseKey kind id
        else .error "invalid FD broker request"
      | _ => .error "invalid FD broker request"
  | _ => .error "invalid FD broker protocol"

/-- What a client sends: some bytes and a number of descriptors. -/
structure Message where
  payload : List UInt8
  attached : Nat
deriving DecidableEq

/-- The control buffer of `unix.CmsgSpace(4)` bytes has room for two descriptors. The kernel
installs no more of them. -/
def Message.installed (message : Message) : Nat := min message.attached 2

def Message.truncated (message : Message) : Bool :=
  256 < message.payload.length || 2 < message.attached

inductive Answer where
  | ok
  | count (files : Nat)
  | status (files : Nat) (sealed : Bool)
  | refused (message : String)
deriving DecidableEq

inductive Phase where
  | idle
  | putting (key : Key) (descriptor : Nat)
  | fetching (take : Bool) (key : Key)
  | sealing
  | reporting
  | answering (answer : Answer)
  | returned (answer : Option Answer)
deriving DecidableEq

structure Connection where
  message : Option Message
  installed : List Nat
  phase : Phase

inductive Entry (ι : Type) where
  | stored (connection : ι) (key : Key) (descriptor : Nat)
  | delivered (take : Bool) (key : Key) (descriptor : Nat)
  | sealed
deriving DecidableEq

structure State (ι : Type) where
  files : List (Key × Nat)
  sealed : Bool
  connection : ι → Connection
  /-- The descriptors which are open in the broker, and the name of the next one. -/
  opened : Finset Nat
  next : Nat
  log : List (Entry ι)

def State.initial {ι : Type} : State ι :=
  ⟨[], false, fun _ => ⟨none, [], .idle⟩, ∅, 0, []⟩

def receivedFD (descriptors : List Nat) : Result Nat :=
  match descriptors with
  | [descriptor] => .ok descriptor
  | _ => .error s!"FD broker PUT received {descriptors.length} descriptors, want 1"

/-- A request which must come without descriptors. It does not close those it comes with. -/
def withoutDescriptors (descriptors : List Nat) (message : String) (phase : Phase) :
    Phase × List Nat :=
  if descriptors ≠ [] then (.answering (.refused message), descriptors) else (phase, [])

def receive (message : Message) (descriptors : List Nat) : Phase × List Nat :=
  -- For an empty message `ReadMsgUnix` returns `io.EOF`.
  if message.payload = [] then (.returned none, descriptors)
  else if message.truncated then (.answering (.refused "truncated request"), descriptors)
  else
    match parseFDBrokerRequest message.payload with
    | .error text => (.answering (.refused text), descriptors)
    | .ok (.put key) =>
      match receivedFD descriptors with
      | .error text => (.answering (.refused text), [])
      | .ok descriptor => (.putting key descriptor, [descriptor])
    | .ok (.fetch take key) =>
      withoutDescriptors descriptors "descriptor request included descriptors" (.fetching take key)
    | .ok .seal => withoutDescriptors descriptors "SEAL included descriptors" .sealing
    | .ok .status => withoutDescriptors descriptors "STATUS included descriptors" .reporting

def fdBrokerMaxFiles : Nat := 4096

inductive Event (ι : Type) where
  | receive (connection : ι) (message : Message)
  | hangup (connection : ι)
  | lock (connection : ι) (sent : Bool)
  | answer (connection : ι) (written : Bool)
deriving DecidableEq

variable {ι : Type} [DecidableEq ι]

section Handling

variable (state : State ι) (connection : ι)

def State.enter (phase : Phase) : State ι :=
  { state with
    connection := update state.connection connection { state.connection connection with phase } }

def State.close (descriptor : Nat) : State ι :=
  { state with opened := state.opened.erase descriptor }

def State.arrive (message : Message) : State ι :=
  let descriptors := List.range' state.next message.installed
  let (phase, remaining) := receive message descriptors
  { state with
    connection := update state.connection connection ⟨some message, descriptors, phase⟩
    opened := state.opened ∪ remaining.toFinset
    next := state.next + message.installed }

def State.refuse (descriptor : Nat) (message : String) : State ι :=
  (state.close descriptor).enter connection (.answering (.refused message))

/-- The file of a `PUT` takes its place in the store, and another one which had it is closed. -/
def State.store (key : Key) (descriptor : Nat) : State ι :=
  { state with
    files := assign state.files (key, descriptor)
    opened := match state.files.lookup key with
      | none => state.opened
      | some previous => state.opened.erase previous
    log := .stored connection key descriptor :: state.log }.enter connection (.answering .ok)

def State.put (key : Key) (descriptor : Nat) : State ι :=
  if state.sealed then state.refuse connection descriptor "FD broker is sealed"
  else if fdBrokerMaxFiles ≤ state.files.length then
    state.refuse connection descriptor "FD broker capacity exceeded"
  else if (state.files.lookup key).isSome && key.kind ≠ .m then
    state.refuse connection descriptor "duplicate FD broker object"
  else state.store connection key descriptor

/-- A file has been sent; after a `TAKE` it leaves the store. -/
def State.deliver (take : Bool) (key : Key) (descriptor : Nat) : State ι :=
  let logged := { state with log := .delivered take key descriptor :: state.log }
  let removed :=
    if take then { logged with files := logged.files.filter (·.1 ≠ key) }.close descriptor
    else logged
  removed.enter connection (.returned (some .ok))

def State.fetch (take : Bool) (key : Key) (sent : Bool) : State ι :=
  if !state.sealed then
    state.enter connection (.answering (.refused "FD broker is not sealed"))
  else
    match state.files.lookup key with
    | none => state.enter connection (.answering (.refused "FD broker object is absent"))
    | some descriptor =>
      if sent then state.deliver connection take key descriptor
      else state.enter connection (.returned none)

end Handling

def step (state : State ι) : Event ι → Option (State ι)
  | .receive connection message =>
    match (state.connection connection).phase with
    | .idle => some (state.arrive connection message)
    | _ => none
  | .hangup connection =>
    match (state.connection connection).phase with
    | .idle => some (state.enter connection (.returned none))
    | _ => none
  | .lock connection sent =>
    match (state.connection connection).phase with
    | .putting key descriptor => some (state.put connection key descriptor)
    | .fetching take key => some (state.fetch connection take key sent)
    | .sealing =>
      some ({ state with sealed := true, log := .sealed :: state.log }.enter connection
        (.answering (.count state.files.length)))
    | .reporting =>
      some (state.enter connection (.answering (.status state.files.length state.sealed)))
    | _ => none
  | .answer connection written =>
    match (state.connection connection).phase with
    | .answering answer =>
      some (state.enter connection (.returned (if written then some answer else none)))
    | _ => none

end Coldsnap.Criu.Broker
