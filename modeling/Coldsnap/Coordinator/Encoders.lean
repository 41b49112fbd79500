import Coldsnap.Coordinator.Client
import Coldsnap.Coordinator.Wire
import Coldsnap.Foundation.Float64
import Coldsnap.Foundation.Python
import Mathlib.Data.List.TakeWhile

/-! # Three encoders

The Go client, the Python client `runtime/shared/coldsnap_coord.py` and the C++ client
`native/nccl_checkpoint_coord/kv_store_client.cc` each encode requests on their own.
-/

namespace Coldsnap.Coordinator

open Python Streams Float64 List Checked

def Operation.code : Operation → UInt8
  | .set => 1
  | .get => 2
  | .delete => 3
  | .health => 4
  | .add => 5
  | .append => 6
  | .other code => code

def Request.outgoing (request : Request) : Outgoing :=
  ⟨request.operation.code, request.timeout * 1000000, request.token, request.key, request.value⟩

def goEncode (endpoint : Endpoint) (call : ClientCall) : Except WriteError Bytes :=
  (endpoint.request call).outgoing.parts.map flatten

def pythonKey (scope key : Bytes) : Bytes := if key = [] then [] else scopedKey scope key

def pythonPack (operation : UInt8) (flags timeout token key value total : Nat) : Bytes :=
  ascii "CSKV" ++ ([1] ++ ([operation] ++ ([UInt8.ofNat (flags / 256), UInt8.ofNat flags] ++
    [timeout, token, key, value, total].flatMap putUint32)))

def encodeRequest (endpoint : Endpoint) (operation : UInt8) (key value : Bytes) (timeout : Rat) :
    Checked Bytes := do
  require (!(timeout < 0 || nearest (4294967295 / 1000) < timeout))
    (valueError "coordinator timeout is out of range")
  let sentKey := pythonKey endpoint.scope key
  let total := endpoint.token.length + sentKey.length + value.length
  require (!(65536 < sentKey.length || 16777216 < value.length || 4294967295 < total))
    (valueError "coordinator request exceeds configured limit")
  return pythonPack operation 0 (roundHalfEven (nearest (timeout * 1000))).toNat
    endpoint.token.length sentKey.length value.length total ++ endpoint.token ++ sentKey ++ value

def pythonEncode (endpoint : Endpoint) : ClientCall → Checked Bytes
  | .health => encodeRequest endpoint 4 [] [] 0
  | .set key value => encodeRequest endpoint 1 key value 0
  | .get key wait => encodeRequest endpoint 2 key [] (nearest (wait / 1000))
  | .delete key => encodeRequest endpoint 3 key [] 0
  | .add key delta => encodeRequest endpoint 5 key (formatInt delta) 0
  | .append key value => encodeRequest endpoint 6 key value 0

def cString (text : Bytes) : Bytes := text.takeWhile fun byte => byte ≠ 0

/-- `Impl::key` below the text which `set_prefix` was called with, which is empty if it was
not. -/
def cppKey (scope keyPrefix key : Bytes) : Bytes :=
  scope ++ (if cString keyPrefix = [] then [] else ascii "/" ++ cString keyPrefix) ++
    (if cString key = [] then [] else ascii "/" ++ cString key)

/-- The packed `RequestHeader`; `htonl` puts the most significant byte first. -/
def cppHeader (operation : UInt8) (timeout token key value total : Nat) : Bytes :=
  ascii "CSKV" ++ [1, operation] ++ [0, 0] ++ putUint32 timeout ++ putUint32 token ++
    putUint32 key ++ putUint32 value ++ putUint32 total

def cppRequest (endpoint : Endpoint) (operation : UInt8) (key value : Bytes) (wait : Nat) :
    Option Bytes :=
  if endpoint.token = [] then none
  else if key.length > 4294967295 ∨ value.length > 4294967295 ∨
      endpoint.token.length > 4294967295 then none
  else
    let total := endpoint.token.length + key.length + value.length
    if total > 4294967295 then none
    else some (cppHeader operation wait endpoint.token.length key.length value.length total ++
      endpoint.token ++ key ++ value)

def cppEncode (endpoint : Endpoint) (keyPrefix : Bytes) : ClientCall → Option Bytes
  | .health => cppRequest endpoint 4 [] [] 0
  | .set key value => cppRequest endpoint 1 (cppKey endpoint.scope keyPrefix key) value 0
  | .get key wait => cppRequest endpoint 2 (cppKey endpoint.scope keyPrefix key) [] wait
  | .delete key => cppRequest endpoint 3 (cppKey endpoint.scope keyPrefix key) [] 0
  | .add _ _ => none
  | .append _ _ => none

def frameBytes (operation : UInt8) (wait : Nat) (token key value : Bytes) : Bytes :=
  Outgoing.bytes ⟨operation, wait * 1000000, token, key, value⟩

variable (operation : UInt8)

theorem milliseconds_whole (wait : Nat) (token key value : Bytes) :
    Outgoing.milliseconds ⟨operation, wait * 1000000, token, key, value⟩ = wait :=
  Int.mul_tdiv_cancel _ (by decide)

variable (wait : Nat) (token key value : Bytes)

theorem frameBytes_length : (frameBytes operation wait token key value).length =
      28 + token.length + key.length + value.length := by
  simp only [frameBytes, Outgoing.bytes, length_append, Outgoing.header_length, requestHeader]
  omega

variable {wait : Nat} {key value : Bytes}

theorem parts_eq_ok {operation : UInt8} {token bytes : Bytes}
    (sends : (Outgoing.parts ⟨operation, wait * 1000000, token, key, value⟩).map flatten =
      .ok bytes) :
    token ≠ [] ∧ token.length + key.length + value.length ≤ 4294967295 ∧ wait ≤ 4294967295 ∧
      bytes = frameBytes operation wait token key value := by
  rw [Outgoing.parts, milliseconds_whole] at sends
  split at sends
  · cases sends
  next nonempty =>
  split at sends
  · cases sends
  next small =>
  split at sends
  · cases sends
  next short =>
  rw [Outgoing.total] at small
  refine ⟨nonempty, by simpa using small, by omega, ?_⟩
  cases sends
  simp [frameBytes, Outgoing.bytes]

theorem pythonPack_frame : pythonPack operation 0 wait token.length key.length value.length
      (token.length + key.length + value.length) ++ token ++ key ++ value =
      frameBytes operation wait token key value := by
  simp only [frameBytes, Outgoing.bytes, Outgoing.header, milliseconds_whole, Outgoing.total,
    Int.toNat_natCast, append_assoc]
  rfl

theorem cppHeader_frame : cppHeader operation wait token.length key.length value.length
      (token.length + key.length + value.length) ++ token ++ key ++ value =
      frameBytes operation wait token key value :=
  pythonPack_frame operation token

variable (endpoint : Endpoint) {bytes : Bytes}

theorem encodeRequest_eq (operation : UInt8) (key value : Bytes) (short : wait ≤ 4294967295) :
    encodeRequest endpoint operation key value (nearest (wait / 1000)) = .ok bytes ↔
      ((pythonKey endpoint.scope key).length ≤ 65536 ∧ value.length ≤ 16777216 ∧
        endpoint.token.length + (pythonKey endpoint.scope key).length + value.length ≤ 4294967295) ∧
      bytes = frameBytes operation wait endpoint.token (pythonKey endpoint.scope key) value := by
  have started : ¬nearest ((wait : Rat) / 1000) < 0 :=
    not_lt.mpr (nearest_nonneg (by positivity))
  have inside : ¬nearest (4294967295 / 1000) < nearest ((wait : Rat) / 1000) := by
    have ordered := nearest_thousandths_le short (by decide)
    rw [not_lt]
    exact_mod_cast ordered
  have rounded : (roundHalfEven (nearest (nearest ((wait : Rat) / 1000) * 1000))).toNat = wait := by
    rw [roundHalfEven_thousandths (by omega), Int.toNat_natCast]
  simp only [encodeRequest, started, inside, decide_false, Bool.or_self, Bool.not_false, rounded,
    pythonPack_frame, bind_eq_ok, require_eq_ok, pure_eq_ok]
  simp only [Bool.not_eq_true', Bool.or_eq_false_iff, decide_eq_false_iff_not, not_lt, true_and,
    exists_const, and_assoc]
  exact and_congr_right fun _ => and_congr_right fun _ => and_congr_right fun _ => eq_comm

theorem cppRequest_eq {endpoint : Endpoint} (wait : Nat) (nonempty : endpoint.token ≠ []) :
    cppRequest endpoint operation key value wait = some bytes ↔
      endpoint.token.length + key.length + value.length ≤ 4294967295 ∧
        bytes = frameBytes operation wait endpoint.token key value := by
  rw [cppRequest, if_neg nonempty]
  dsimp only
  rw [cppHeader_frame]
  by_cases small : endpoint.token.length + key.length + value.length ≤ 4294967295
  · rw [if_neg (by omega), if_neg (by omega), Option.some.injEq, and_iff_right small]
    exact eq_comm
  · rw [if_pos (Nat.not_le.mp small), ite_self]
    simp [small]

def ClientCall.bare (call : ClientCall) : Request := call.requestWith id []

def ClientCall.sent (sentKey : Bytes → Bytes) (call : ClientCall) : Bytes :=
  call.key?.elim [] sentKey

def ClientCall.offered : ClientCall → Bool
  | .add _ _ => false
  | .append _ _ => false
  | _ => true

theorem goEncode_eq (call : ClientCall) :
    goEncode endpoint call = (Outgoing.parts ⟨call.bare.operation.code, call.bare.timeout * 1000000,
      endpoint.token, call.sent (scopedKey endpoint.scope), call.bare.value⟩).map flatten := by
  cases call <;> rfl

theorem pythonEncode_eq (call : ClientCall) :
    pythonEncode endpoint call = encodeRequest endpoint call.bare.operation.code
      (call.sent id) call.bare.value (nearest (call.bare.timeout / 1000)) := by
  have none : nearest (((0 : Nat) : Rat) / 1000) = 0 := by simp
  cases call <;> simp only [ClientCall.bare, ClientCall.requestWith, none] <;> rfl

theorem cppEncode_eq (keyPrefix : Bytes) {call : ClientCall} (offered : call.offered = true) :
    cppEncode endpoint keyPrefix call = cppRequest endpoint call.bare.operation.code
      (call.sent (cppKey endpoint.scope keyPrefix)) call.bare.value call.bare.timeout := by
  cases call with
  | add key delta => cases offered
  | append key value => cases offered
  | health => rfl
  | set key value => rfl
  | get key wait => rfl
  | delete key => rfl

theorem pythonKey_sent (scope : Bytes) (call : ClientCall) :
    pythonKey scope (call.sent id) = call.sent (pythonKey scope) := by
  unfold ClientCall.sent
  cases call.key? with
  | none => rfl
  | some key => rfl

theorem cString_iff (text : Bytes) : cString text = text ↔ (0 : UInt8) ∉ text := by
  rw [cString, takeWhile_eq_self_iff]
  constructor
  · intro all member
    have nonzero := all 0 member
    simp at nonzero
  · intro free byte member
    simp only [ne_eq, decide_eq_true_eq]
    intro zero
    exact free (zero ▸ member)

theorem zero_notMem_cString (text : Bytes) : (0 : UInt8) ∉ cString text := by
  intro member
  simpa using mem_takeWhile_imp member

/-- The keys of C++ and Go are the same only without a text before them, and for named keys
without zero bytes. -/
theorem cppKey_iff {scope keyPrefix : Bytes} :
    cppKey scope keyPrefix key = scopedKey scope key ↔
      cString keyPrefix = [] ∧ key ≠ [] ∧ (0 : UInt8) ∉ key := by
  constructor
  · intro same
    rw [cppKey, scopedKey, append_assoc, append_assoc, append_cancel_left_eq] at same
    have free : (0 : UInt8) ∉ key := by
      intro member
      have inside := same ▸ mem_append_right (ascii "/") member
      rcases mem_append.mp inside with before | within
      · split at before <;> simp_all [ascii, zero_notMem_cString]
      · split at within <;> simp_all [ascii, zero_notMem_cString]
    rw [(cString_iff key).mpr free] at same
    have lengths := congrArg length same
    by_cases bare : cString keyPrefix = []
    · refine ⟨bare, fun unnamed => ?_, free⟩
      simp [bare, unnamed, ascii] at lengths
    · have before := length_pos_of_ne_nil bare
      simp only [if_neg bare, length_append] at lengths
      split at lengths
      · next unnamed =>
          simp only [unnamed, length_nil] at lengths
          omega
      · rw [length_append] at lengths
        omega
  · intro ⟨bare, nonempty, free⟩
    have equal := (cString_iff key).mpr free
    simp [cppKey, bare, equal, nonempty, scopedKey]

theorem frameBytes_key {operation : UInt8} {token left right : Bytes}
    (same : frameBytes operation wait token left value =
      frameBytes operation wait token right value) : left = right := by
  have lengths := congrArg length same
  rw [frameBytes_length, frameBytes_length] at lengths
  have long : left.length = right.length := by omega
  exact (append_inj (append_cancel_left (append_inj same rfl).2) long).1

section Agreement

variable {endpoint : Endpoint} {call : ClientCall}

/-- The Python client sends what the Go client sends exactly for named keys within its
limits. -/
theorem pythonEncode_iff (sends : goEncode endpoint call = .ok bytes) :
    pythonEncode endpoint call = .ok bytes ↔
      call.key? ≠ some [] ∧ (call.sent (scopedKey endpoint.scope)).length ≤ 65536 ∧
        call.bare.value.length ≤ 16777216 := by
  rw [goEncode_eq] at sends
  rcases parts_eq_ok sends with ⟨_, small, short, rfl⟩
  rw [pythonEncode_eq, encodeRequest_eq endpoint _ _ _ short, pythonKey_sent]
  constructor
  · intro ⟨⟨key, value, _⟩, same⟩
    have keys := frameBytes_key same
    refine ⟨?_, by rwa [keys], value⟩
    intro unnamed
    simp [ClientCall.sent, unnamed, pythonKey, scopedKey, ascii] at keys
  · intro ⟨named, key, value⟩
    have same : call.sent (pythonKey endpoint.scope) = call.sent (scopedKey endpoint.scope) := by
      unfold ClientCall.sent
      cases keyed : call.key? with
      | none => rfl
      | some name =>
        have nonempty : name ≠ [] := fun empty => named (by rw [keyed, empty])
        simp [pythonKey, nonempty]
    rw [same]
    exact ⟨⟨key, value, small⟩, rfl⟩

/-- The C++ client sends what the Go client sends exactly without a text before its keys, and
for named keys without zero bytes. -/
theorem cppEncode_iff {keyPrefix : Bytes} (sends : goEncode endpoint call = .ok bytes)
    (offered : call.offered = true) :
    cppEncode endpoint keyPrefix call = some bytes ↔
      ∀ key, call.key? = some key → cString keyPrefix = [] ∧ key ≠ [] ∧ (0 : UInt8) ∉ key := by
  rw [goEncode_eq] at sends
  rcases parts_eq_ok sends with ⟨nonempty, small, _, rfl⟩
  have keys : call.sent (cppKey endpoint.scope keyPrefix) =
      call.sent (scopedKey endpoint.scope) ↔
      ∀ key, call.key? = some key → cString keyPrefix = [] ∧ key ≠ [] ∧ (0 : UInt8) ∉ key := by
    unfold ClientCall.sent
    cases call.key? with
    | none => simp
    | some key => simpa using cppKey_iff
  rw [cppEncode_eq endpoint keyPrefix offered, cppRequest_eq _ _ nonempty, ← keys]
  constructor
  · intro ⟨_, same⟩
    exact (frameBytes_key same).symm
  · intro same
    rw [same]
    exact ⟨small, rfl⟩

end Agreement

/-- Written with short writes and read back with short reads, the frames come out as
they were, and nothing behind them is touched. -/
def Survives {φ ψ : Type}
    (write : (Nat → Option Nat) → Nat → φ → Except WriteError Unit × Nat × List Bytes)
    (receive : String → List Bytes → Except ReadError (ψ × List Bytes)) (same : φ → ψ → Prop)
    (frames : List φ) : Prop :=
  ∀ accepts ending pieces behind, Accepting accepts →
    (writeMany (write accepts) 0 frames).1 = .ok () ∧
    (pieces.flatten = (writeMany (write accepts) 0 frames).2.flatten ++ behind →
      ∃ received rest, receiveMany (receive ending) frames.length pieces = .ok (received, rest) ∧
        rest.flatten = behind ∧ Forall₂ same frames received)

def Outgoing.Same (request : Outgoing) (received : Request) : Prop :=
  received.operation = Operation.ofByte request.operation ∧
    (received.timeout : Int) * 1000000 = request.timeout ∧
    received.token = request.token ∧ received.key = request.key ∧ received.value = request.value

def Outgoing.Whole (request : Outgoing) : Prop :=
  (request.milliseconds.toNat : Int) * 1000000 = request.timeout

theorem survives_of_carries {φ ψ : Type}
    {write : (Nat → Option Nat) → Nat → φ → Except WriteError Unit × Nat × List Bytes}
    {receive : String → List Bytes → Except ReadError (ψ × List Bytes)} {same : φ → ψ → Prop}
    {encoded : φ → Bytes} {decoded : φ → ψ} {frames : List φ}
    (carries : ∀ accepts ending, Accepting accepts → ∀ frame ∈ frames,
      Carries (write accepts) (receive ending) encoded decoded frame) :
    Survives write receive same frames ↔ ∀ frame ∈ frames, same frame (decoded frame) := by
  have always : Forall₂ same frames (frames.map decoded) ↔
      ∀ frame ∈ frames, same frame (decoded frame) := by
    rw [forall₂_map_right_iff, forall₂_same]
  constructor
  · intro survives
    have accepting : Accepting fun _ => some 1 := fun _ => ⟨0, rfl⟩
    have sent := writeMany_sent (carries _ "" accepting) 0
    rcases (survives _ "" [frames.flatMap encoded] [] accepting).2 (by simp [sent.2]) with
      ⟨received, rest, read, _, related⟩
    have whole : [frames.flatMap encoded].flatten = frames.flatMap encoded ++ [] := by simp
    rcases receiveMany_taken (carries _ "" accepting) whole with ⟨_, again, _⟩
    rw [again] at read
    cases read
    exact always.mp related
  · intro related accepts ending pieces behind accepting
    rcases writeMany_sent (carries accepts ending accepting) 0 with ⟨success, sent⟩
    refine ⟨success, ?_⟩
    intro stream
    rw [sent] at stream
    rcases receiveMany_taken (carries accepts ending accepting) stream with ⟨rest, read, left⟩
    exact ⟨_, rest, read, left, always.mpr related⟩

theorem requests_survive_iff {maxKey maxValue : Nat} {requests : List Outgoing}
    (fits : ∀ request ∈ requests, request.Fits maxKey maxValue) :
    Survives writeRequest (receiveRequest maxKey maxValue) Outgoing.Same requests ↔
      ∀ request ∈ requests, request.Whole := by
  rw [survives_of_carries fun accepts ending accepting request member =>
    (fits request member).carries accepting ending]
  constructor
  · intro same request member
    exact (same request member).2.1
  · intro whole request member
    exact ⟨rfl, whole request member, rfl, rfl, rfl⟩

theorem replies_survive {maxValue : Nat} {replies : List Reply}
    (fits : ∀ reply ∈ replies, reply.Fits maxValue) :
    Survives writeResponse (receiveResponse maxValue) Eq replies := by
  rw [survives_of_carries fun accepts ending accepting reply member =>
    (fits reply member).carries accepting ending]
  intro reply _
  rfl

def SameBytes (endpoint : Endpoint) (keyPrefix : Bytes) (call : ClientCall) (bytes : Bytes) :
    Prop :=
  goEncode endpoint call = .ok bytes ∧ pythonEncode endpoint call = .ok bytes ∧
    (call.offered = true → cppEncode endpoint keyPrefix call = some bytes)

/-- A call which all clients encode alike: its key is not empty, it reaches C++ whole and gets
no text before it there, and Python accepts its size. -/
structure Portable (endpoint : Endpoint) (keyPrefix : Bytes) (call : ClientCall) : Prop where
  named : call.key? ≠ some []
  whole : call.offered = true → ∀ key, call.key? = some key →
    cString keyPrefix = [] ∧ (0 : UInt8) ∉ key
  key : (call.sent (scopedKey endpoint.scope)).length ≤ 65536
  value : call.bare.value.length ≤ 16777216

/-- Frames within the limits survive every way of cutting the stream exactly if their
timeouts are whole milliseconds, and the clients encode a call alike exactly if it is
portable. -/
theorem wire_agreement {maxKey maxValue : Nat} {requests : List Outgoing}
    (requestsFit : ∀ request ∈ requests, Outgoing.Fits maxKey maxValue request) {maxReply : Nat}
    {replies : List Reply} (repliesFit : ∀ reply ∈ replies, Reply.Fits maxReply reply)
    {endpoint : Endpoint} {call : ClientCall} {bytes : Bytes}
    (sends : goEncode endpoint call = .ok bytes) (keyPrefix : Bytes) :
    (Survives writeRequest (receiveRequest maxKey maxValue) Outgoing.Same requests ↔
      ∀ request ∈ requests, request.Whole) ∧
    Survives writeResponse (receiveResponse maxReply) Eq replies ∧
    (SameBytes endpoint keyPrefix call bytes ↔ Portable endpoint keyPrefix call) := by
  refine ⟨requests_survive_iff requestsFit, replies_survive repliesFit, ?_⟩
  constructor
  · intro ⟨_, python, cpp⟩
    rcases (pythonEncode_iff sends).mp python with ⟨named, key, value⟩
    refine ⟨named, ?_, key, value⟩
    intro offered name keyed
    exact ((cppEncode_iff sends offered).mp (cpp offered) name keyed).imp_right And.right
  · intro portable
    refine ⟨sends, (pythonEncode_iff sends).mpr ⟨portable.named, portable.key, portable.value⟩, ?_⟩
    intro offered
    apply (cppEncode_iff sends offered).mpr
    intro key keyed
    refine (portable.whole offered key keyed).imp_right (And.intro fun empty => ?_)
    exact portable.named (by rw [keyed, empty])

def exampleEndpoint : Endpoint := ⟨ascii "10.0.0.1:7000", ascii "run", ascii "secret"⟩

/-- A request and a reply on the wire, and a call of all three clients. -/
theorem wire_agreement_get :
    Survives writeRequest (receiveRequest 64 64) Outgoing.Same
      [⟨2, 1500000000, [7], ascii "run/k", []⟩] ∧
    Survives writeResponse (receiveResponse 64) Eq [⟨0, ascii "v"⟩] ∧
    ∃ bytes, SameBytes exampleEndpoint [] (.get (ascii "k") 1500) bytes := by
  have fits : ∀ request ∈ [(⟨2, 1500000000, [7], ascii "run/k", []⟩ : Outgoing)],
      Outgoing.Fits 64 64 request := by
    rw [forall_mem_singleton]
    constructor <;> decide
  have repliesFit : ∀ reply ∈ [(⟨0, ascii "v"⟩ : Reply)], Reply.Fits 64 reply := by
    rw [forall_mem_singleton]
    constructor <;> decide
  have sends : goEncode exampleEndpoint (.get (ascii "k") 1500) =
      .ok (frameBytes 2 1500 (ascii "secret") (ascii "run/k") []) := rfl
  have whole : ∀ request ∈ [(⟨2, 1500000000, [7], ascii "run/k", []⟩ : Outgoing)],
      request.Whole := forall_mem_singleton.mpr rfl
  have portable : Portable exampleEndpoint [] (.get (ascii "k") 1500) := by
    constructor
    · decide
    · intro _ key keyed
      cases keyed
      decide
    · decide
    · decide
  rcases wire_agreement fits repliesFit sends [] with ⟨requests, replies, encodings⟩
  exact ⟨requests.mpr whole, replies, _, encodings.mpr portable⟩

/-- Under the empty key the three clients send three different keys. -/
theorem empty_key_encodings :
    exampleEndpoint.Valid ∧
    goEncode exampleEndpoint (.delete []) =
      .ok (frameBytes 3 0 (ascii "secret") (ascii "run/") []) ∧
    pythonEncode exampleEndpoint (.delete []) = .ok (frameBytes 3 0 (ascii "secret") [] []) ∧
    cppEncode exampleEndpoint [] (.delete []) =
      some (frameBytes 3 0 (ascii "secret") (ascii "run") []) ∧
    ∀ bytes, ¬SameBytes exampleEndpoint [] (.delete []) bytes := by
  have go : goEncode exampleEndpoint (.delete []) =
      .ok (frameBytes 3 0 (ascii "secret") (ascii "run/") []) := rfl
  have python : pythonEncode exampleEndpoint (.delete []) =
      .ok (frameBytes 3 0 (ascii "secret") [] []) := by
    rw [pythonEncode_eq]
    apply (encodeRequest_eq _ _ _ _ (by decide)).mpr
    exact ⟨by decide, rfl⟩
  refine ⟨by decide, go, python, rfl, ?_⟩
  intro bytes ⟨same, other, _⟩
  rw [python] at other
  cases same
  cases other

end Coldsnap.Coordinator
