import Coldsnap.Coordinator.Protocol
import Coldsnap.Foundation.Streams
import Mathlib.Data.List.Forall2

/-! # Frames on a connection

`WriteRequest`, `ReadRequest`, `WriteResponse` and `ReadResponse` of
`internal/coord/protocol.go` on connections which take and deliver their bytes in
arbitrary pieces.
-/

namespace Coldsnap.Coordinator

open Streams List

def putUint32 (value : Nat) : Bytes :=
  [UInt8.ofNat (value / 16777216), UInt8.ofNat (value / 65536), UInt8.ofNat (value / 256),
    UInt8.ofNat value]

@[simp] theorem putUint32_length (value : Nat) : (putUint32 value).length = 4 := rfl

/-- A word is found where it was put. -/
theorem uint32At_put (front behind : Bytes) {value : Nat} (bounded : value < 4294967296) :
    uint32At (front ++ (putUint32 value ++ behind)) front.length = value := by
  have word : (putUint32 value ++ behind).take 4 = putUint32 value := by
    rw [← putUint32_length value, take_left]
  rw [uint32At, drop_left, word]
  simp only [putUint32, foldl_cons, foldl_nil, UInt8.toNat_ofNat']
  omega

/-- A request as the caller of `WriteRequest` has it; the timeout is in nanoseconds. -/
structure Outgoing where
  operation : UInt8
  timeout : Int
  token : Bytes
  key : Bytes
  value : Bytes
deriving DecidableEq, Repr

variable (request : Outgoing)

def Outgoing.total : Nat :=
  request.token.length + request.key.length + request.value.length

def Outgoing.milliseconds : Int := request.timeout.tdiv 1000000

inductive WriteError where
  | tokenRequired
  | tooLarge
  | timeoutOutOfRange (timeout : Int)
  | connection
deriving DecidableEq, Repr

def Outgoing.header : Bytes :=
  magic ++ ([version, request.operation, 0, 0] ++ (putUint32 request.milliseconds.toNat ++
    (putUint32 request.token.length ++ (putUint32 request.key.length ++
      (putUint32 request.value.length ++ putUint32 request.total)))))

def Outgoing.parts : Except WriteError (List Bytes) :=
  if request.token = [] then .error .tokenRequired
  else if request.total > 4294967295 then .error .tooLarge
  else if request.milliseconds < 0 ∨ request.milliseconds > 4294967295 then
    .error (.timeoutOutOfRange request.timeout)
  else .ok [request.header, request.token, request.key, request.value]

structure Reply where
  status : UInt8
  value : Bytes
deriving DecidableEq, Repr

def Reply.header (reply : Reply) : Bytes :=
  magic ++ ([version, reply.status, 0, 0] ++ putUint32 reply.value.length)

def Reply.parts (reply : Reply) : Except WriteError (List Bytes) :=
  if reply.value.length > 4294967295 then .error .tooLarge else .ok [reply.header, reply.value]

def writeFrame (accepts : Nat → Option Nat) (calls : Nat) (parts : Except WriteError (List Bytes)) :
    Except WriteError Unit × Nat × List Bytes :=
  match parts with
  | .error error => (.error error, calls, [])
  | .ok parts =>
    let written := writeEach accepts calls parts
    (if written.complete then .ok () else .error .connection, written.calls, written.pieces)

def writeRequest (accepts : Nat → Option Nat) (calls : Nat) (request : Outgoing) :
    Except WriteError Unit × Nat × List Bytes :=
  writeFrame accepts calls request.parts

def writeResponse (accepts : Nat → Option Nat) (calls : Nat) (reply : Reply) :
    Except WriteError Unit × Nat × List Bytes :=
  writeFrame accepts calls reply.parts

def writeMany {φ : Type} (write : Nat → φ → Except WriteError Unit × Nat × List Bytes) :
    (calls : Nat) → List φ → Except WriteError Unit × List Bytes
  | _, [] => (.ok (), [])
  | calls, frame :: frames =>
    let (result, later, pieces) := write calls frame
    match result with
    | .error error => (.error error, pieces)
    | .ok () =>
      let rest := writeMany write later frames
      (rest.1, pieces ++ rest.2)

def receiveRequest (maxKey maxValue : Nat) (ending : String) (pieces : List Bytes) :
    Except ReadError (Request × List Bytes) :=
  match readFull requestHeader pieces with
  | none => .error (.connection ending)
  | some (header, pieces) => do
    let totalLength ← requestLength maxKey maxValue header
    match readFull totalLength pieces with
    | none => .error (.connection ending)
    | some (payload, pieces) => .ok (requestOf header payload, pieces)

def responseHeader : Nat := 12

def receiveResponse (maxValue : Nat) (ending : String) (pieces : List Bytes) :
    Except ReadError (Reply × List Bytes) :=
  match readFull responseHeader pieces with
  | none => .error (.connection ending)
  | some (header, pieces) =>
    if header.take 4 ≠ magic ∨ header.getD 4 0 ≠ version then
      .error (.message "unsupported coordinator response")
    else if uint32At header 8 > maxValue then .error .tooLarge
    else match readFull (uint32At header 8) pieces with
      | none => .error (.connection ending)
      | some (value, pieces) => .ok (⟨header.getD 5 0, value⟩, pieces)

def receiveMany {φ : Type} (receive : List Bytes → Except ReadError (φ × List Bytes)) :
    (count : Nat) → List Bytes → Except ReadError (List φ × List Bytes)
  | 0, pieces => .ok ([], pieces)
  | count + 1, pieces => do
    let (frame, pieces) ← receive pieces
    let (frames, pieces) ← receiveMany receive count pieces
    return (frame :: frames, pieces)

/-- Reading in pieces is reading what has arrived. -/
theorem receiveRequest_arrived (maxKey maxValue : Nat) (ending : String) (pieces : List Bytes) :
    (receiveRequest maxKey maxValue ending pieces).map Prod.fst =
      readRequest maxKey maxValue pieces.flatten ending := by
  simp only [receiveRequest, readRequest]
  cases read : readFull requestHeader pieces with
  | none =>
    have short := readFull_none.mp read
    rw [if_pos (by rw [length_take]; omega)]
    rfl
  | some found =>
    rcases found with ⟨header, rest⟩
    rcases readFull_some read with ⟨taken, left⟩
    have enough : ¬pieces.flatten.length < requestHeader := by
      rw [← readFull_none, read]
      simp
    rw [if_neg (by rw [length_take]; omega), ← taken]
    dsimp only
    cases requestLength maxKey maxValue header with
    | error error => rfl
    | ok length =>
      simp only [ok_bind]
      cases body : readFull length rest with
      | none =>
        have short := readFull_none.mp body
        rw [left] at short
        rw [if_pos (by rw [length_take]; omega)]
        rfl
      | some found =>
        rcases readFull_some body with ⟨takenBody, _⟩
        have enoughBody : ¬rest.flatten.length < length := by
          rw [← readFull_none, body]
          simp
        rw [left] at takenBody enoughBody
        rw [if_neg (by rw [length_take]; omega), ← takenBody]
        rfl

section Frames

variable {φ ψ : Type} {write : Nat → φ → Except WriteError Unit × Nat × List Bytes}
variable {receive : List Bytes → Except ReadError (ψ × List Bytes)} {encoded : φ → Bytes}
variable {decoded : φ → ψ}

/-- What has to be shown of one frame: the writer sends its bytes, and the reader takes
exactly these off any stream which begins with them. -/
structure Carries (write : Nat → φ → Except WriteError Unit × Nat × List Bytes)
    (receive : List Bytes → Except ReadError (ψ × List Bytes)) (encoded : φ → Bytes)
    (decoded : φ → ψ) (frame : φ) : Prop where
  sent : ∀ calls, (write calls frame).1 = .ok () ∧ (write calls frame).2.2.flatten = encoded frame
  taken : ∀ {pieces behind}, pieces.flatten = encoded frame ++ behind →
    ∃ rest, receive pieces = .ok (decoded frame, rest) ∧ rest.flatten = behind

variable {frames : List φ} (carries : ∀ frame ∈ frames, Carries write receive encoded decoded frame)

include carries

theorem writeMany_sent : ∀ calls, (writeMany write calls frames).1 = .ok () ∧
      (writeMany write calls frames).2.flatten = frames.flatMap encoded := by
  induction frames with
  | nil => intro calls; exact ⟨rfl, rfl⟩
  | cons frame frames induction =>
    intro calls
    rcases (carries frame mem_cons_self).sent calls with ⟨success, pieces⟩
    rcases induction (forall_mem_cons.mp carries).2 (write calls frame).2.1 with ⟨later, others⟩
    simp only [writeMany, success]
    refine ⟨later, ?_⟩
    rw [flatten_append, pieces, others, flatMap_cons]

theorem receiveMany_taken :
    ∀ {pieces : List Bytes} {behind : Bytes}, pieces.flatten = frames.flatMap encoded ++ behind →
      ∃ rest, receiveMany receive frames.length pieces = .ok (frames.map decoded, rest) ∧
        rest.flatten = behind := by
  induction frames with
  | nil =>
    intro pieces behind stream
    exact ⟨pieces, rfl, by simpa using stream⟩
  | cons frame frames induction =>
    intro pieces behind stream
    rw [flatMap_cons, append_assoc] at stream
    rcases (carries frame mem_cons_self).taken stream with ⟨middle, first, left⟩
    rcases induction (forall_mem_cons.mp carries).2 left with ⟨rest, others, remaining⟩
    refine ⟨rest, ?_, remaining⟩
    rw [length_cons, receiveMany, first]
    simp only [bind, Except.bind, others]
    rfl

end Frames

/-- A request within the limits of the protocol and of the reader. -/
structure Outgoing.Fits (maxKey maxValue : Nat) (request : Outgoing) : Prop where
  token : request.token ≠ []
  key : request.key.length ≤ maxKey
  value : request.value.length ≤ maxValue
  total : request.total ≤ maxKey + maxValue + 4096
  word : request.total ≤ 4294967295
  started : 0 ≤ request.milliseconds
  timeout : request.milliseconds ≤ 4294967295

def Outgoing.bytes : Bytes :=
  request.header ++ (request.token ++ (request.key ++ request.value))

def Outgoing.received : Request :=
  ⟨Operation.ofByte request.operation, request.milliseconds.toNat, request.token, request.key,
    request.value⟩

@[simp] theorem Outgoing.header_length : request.header.length = requestHeader := rfl

variable {accepts : Nat → Option Nat}

theorem Outgoing.Fits.carries {maxKey maxValue : Nat} {request : Outgoing}
    (fits : request.Fits maxKey maxValue) (accepting : Accepting accepts) (ending : String) :
    Carries (writeRequest accepts) (receiveRequest maxKey maxValue ending) Outgoing.bytes
      Outgoing.received request where
  sent calls := by
    have parts : request.parts =
        .ok [request.header, request.token, request.key, request.value] := by
      have word := fits.word
      have started := fits.started
      have timeout := fits.timeout
      rw [Outgoing.parts, if_neg fits.token, if_neg (by omega), if_neg (by omega)]
    rcases writeEach_complete accepting
      [request.header, request.token, request.key, request.value] calls with ⟨complete, pieces⟩
    simp only [writeRequest, writeFrame, parts, complete]
    rw [pieces]
    simp [Outgoing.bytes]
  taken := by
    intro pieces behind stream
    have total := fits.word
    rw [Outgoing.total] at total
    have token := length_pos_iff.mpr fits.token
    rw [Outgoing.bytes, append_assoc] at stream
    rcases readFull_append stream with ⟨rest, first, left⟩
    rw [Outgoing.header_length] at first
    rcases readFull_append left with ⟨remaining, second, done⟩
    have length : (request.token ++ (request.key ++ request.value)).length = request.total := by
      simp only [length_append, Outgoing.total]
      omega
    rw [length] at second
    -- The words of the header, each found behind those before it.
    have words : uint32At request.header 8 = request.milliseconds.toNat ∧
        uint32At request.header 12 = request.token.length ∧
        uint32At request.header 16 = request.key.length ∧
        uint32At request.header 20 = request.value.length ∧
        uint32At request.header 24 = request.total := by
      have timeout := fits.timeout
      let start := magic ++ [version, request.operation, 0, 0]
      let timed := start ++ putUint32 request.milliseconds.toNat
      let tokened := timed ++ putUint32 request.token.length
      let keyed := tokened ++ putUint32 request.key.length
      refine ⟨?_, ?_, ?_, ?_, ?_⟩
      · exact uint32At_put start _ (by omega)
      · exact uint32At_put timed _ (by omega)
      · exact uint32At_put tokened _ (by omega)
      · exact uint32At_put keyed _ (by omega)
      · exact uint32At_put (keyed ++ putUint32 request.value.length) []
          (by rw [Outgoing.total]; omega)
    rcases words with ⟨timeoutWord, tokenWord, keyWord, valueWord, totalWord⟩
    have marked : request.header.take 4 = magic ∧ request.header.getD 4 0 = version ∧
        request.header.getD 5 0 = request.operation := ⟨rfl, rfl, rfl⟩
    have limits := fits.total
    refine ⟨remaining, ?_, done⟩
    simp only [receiveRequest, requestLength, requestOf, first, timeoutWord, tokenWord, keyWord,
      valueWord, totalWord, marked.1, marked.2.1, marked.2.2]
    rw [if_neg (by simp), if_neg (by rw [Outgoing.total]; omega),
      if_neg (by have := fits.key; have := fits.value; omega), ok_bind, second]
    simp [Outgoing.received, drop_append]

structure Reply.Fits (maxValue : Nat) (reply : Reply) : Prop where
  value : reply.value.length ≤ maxValue
  word : reply.value.length ≤ 4294967295

def Reply.bytes (reply : Reply) : Bytes := reply.header ++ reply.value

theorem Reply.Fits.carries {maxValue : Nat} {reply : Reply} (fits : reply.Fits maxValue)
    (accepting : Accepting accepts) (ending : String) :
    Carries (writeResponse accepts) (receiveResponse maxValue ending) Reply.bytes id reply where
  sent calls := by
    have parts : reply.parts = .ok [reply.header, reply.value] := by
      have word := fits.word
      rw [Reply.parts, if_neg (by omega)]
    rcases writeEach_complete accepting [reply.header, reply.value] calls with ⟨complete, pieces⟩
    simp only [writeResponse, writeFrame, parts, complete]
    rw [pieces]
    simp [Reply.bytes]
  taken := by
    intro pieces behind stream
    have word := fits.word
    have value := fits.value
    rw [Reply.bytes, append_assoc] at stream
    rcases readFull_append stream with ⟨rest, first, left⟩
    rcases readFull_append left with ⟨remaining, second, done⟩
    have length : reply.header.length = responseHeader := rfl
    rw [length] at first
    have lengthWord : uint32At reply.header 8 = reply.value.length :=
      uint32At_put (magic ++ [version, reply.status, 0, 0]) [] (by omega)
    have marked : reply.header.take 4 = magic ∧ reply.header.getD 4 0 = version ∧
        reply.header.getD 5 0 = reply.status := ⟨rfl, rfl, rfl⟩
    refine ⟨remaining, ?_, done⟩
    simp only [receiveResponse, first, lengthWord, marked.1, marked.2.1, marked.2.2]
    rw [if_neg (by simp), if_neg (by omega), second]
    rfl

end Coldsnap.Coordinator
