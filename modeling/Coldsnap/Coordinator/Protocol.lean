import Coldsnap.Foundation.Results
import Mathlib.Data.List.Basic

/-! # Requests of the coordinator

The request frame of `internal/coord/protocol.go` and the decimal integers which
counters are stored as.
-/

namespace Coldsnap.Coordinator

open List

abbrev Bytes := List UInt8

def ascii (text : String) : Bytes := text.toList.map fun character => UInt8.ofNat character.toNat

def maxInt64 : Int := 9223372036854775807
def minInt64 : Int := -9223372036854775808

abbrev IsInt64 (value : Int) : Prop := minInt64 ≤ value ∧ value ≤ maxInt64

def isDigit (byte : UInt8) : Bool := 48 ≤ byte.toNat && byte.toNat ≤ 57

def parseUint (text : Bytes) : Option Nat :=
  if text ≠ [] ∧ text.all isDigit = true then
    let value := text.foldl (fun sum byte => 10 * sum + (byte.toNat - 48)) 0
    if value < 18446744073709551616 then some value else none
  else none

def checkInt64 (value : Int) : Option Int :=
  if IsInt64 value then some value else none

def parseInt : Bytes → Option Int
  | [] => none
  | first :: rest =>
    if first = 45 then (parseUint rest).bind fun value => checkInt64 (-(value : Int))
    else if first = 43 then (parseUint rest).bind fun value => checkInt64 value
    else (parseUint (first :: rest)).bind fun value => checkInt64 value

def decimal (value : Nat) : Bytes :=
  (Nat.toDigits 10 value).map fun character => UInt8.ofNat character.toNat

def formatInt (value : Int) : Bytes :=
  if value < 0 then 45 :: decimal value.natAbs else decimal value.natAbs

variable {value : Nat} {character : Char}

theorem digit_bounds (member : character ∈ Nat.toDigits 10 value) :
    48 ≤ character.toNat ∧ character.toNat ≤ 57 := by
  have digit := Nat.isDigit_of_mem_toDigits (by decide) (by decide) member
  simp only [Char.isDigit, Bool.and_eq_true, decide_eq_true_eq] at digit
  exact ⟨digit.1, digit.2⟩

theorem toNat_digit (member : character ∈ Nat.toDigits 10 value) :
    (UInt8.ofNat character.toNat).toNat = character.toNat := by
  have bounds := digit_bounds member
  rw [UInt8.toNat_ofNat']
  omega

theorem decimal_all_digits (value : Nat) : (decimal value).all isDigit = true := by
  rw [decimal, all_map, all_eq_true]
  intro character member
  have bounds := digit_bounds member
  simp only [Function.comp_apply, isDigit, toNat_digit member, Bool.and_eq_true, decide_eq_true_eq]
  exact bounds

theorem foldl_decimal (value : Nat) :
    (decimal value).foldl (fun sum byte => 10 * sum + (byte.toNat - 48)) 0 = value := by
  have digits : (decimal value).foldl (fun sum byte => 10 * sum + (byte.toNat - 48)) 0 =
      (Nat.toDigits 10 value).foldl
        (fun sum character => 10 * sum + (character.toNat - '0'.toNat)) 0 := by
    rw [decimal, foldl_map]
    apply foldl_ext
    intro sum character member
    rw [toNat_digit member]
    rfl
  rw [digits]
  exact Nat.ofDigitChars_toDigits (by decide) (by decide)

theorem parseUint_decimal (bounded : value < 18446744073709551616) :
    parseUint (decimal value) = some value := by
  have nonempty : decimal value ≠ [] := by
    simp [decimal, Nat.toDigits_ne_nil]
  rw [parseUint, if_pos ⟨nonempty, decimal_all_digits value⟩]
  simp only [foldl_decimal]
  rw [if_pos bounded]

theorem decimal_head {first : UInt8} {rest : Bytes} (split : decimal value = first :: rest)
    : first ≠ 45 ∧ first ≠ 43 := by
  have digit : isDigit first = true := by
    have all := decimal_all_digits value
    rw [split, all_cons, Bool.and_eq_true] at all
    exact all.1
  constructor
  · rintro rfl
    exact absurd digit (by decide)
  · rintro rfl
    exact absurd digit (by decide)

variable {value : Int}

theorem parseInt_formatInt (bounds : IsInt64 value) : parseInt (formatInt value) = some value := by
  have bounded : value.natAbs < 18446744073709551616 := by
    simp only [IsInt64, minInt64, maxInt64] at bounds
    omega
  by_cases negative : value < 0
  · have magnitude : -((value.natAbs : Nat) : Int) = value := by omega
    rw [formatInt, if_pos negative, parseInt, if_pos rfl, parseUint_decimal bounded,
      Option.bind_some, magnitude]
    exact if_pos bounds
  · have magnitude : ((value.natAbs : Nat) : Int) = value := by omega
    rw [formatInt, if_neg negative]
    cases split : decimal value.natAbs with
    | nil =>
      have parsed := parseUint_decimal bounded
      rw [split] at parsed
      cases parsed
    | cons first rest =>
      have signs := decimal_head split
      rw [parseInt, if_neg signs.1, if_neg signs.2, ← split, parseUint_decimal bounded,
        Option.bind_some, magnitude]
      exact if_pos bounds

theorem parseInt_bounds {text : Bytes} (parsed : parseInt text = some value) : IsInt64 value := by
  have checked : ∀ {read : Option Nat} {sign : Nat → Int},
      read.bind (fun number => checkInt64 (sign number)) = some value → IsInt64 value := by
    intro read sign parsed
    rcases Option.bind_eq_some_iff.mp parsed with ⟨_, _, accepted⟩
    unfold checkInt64 at accepted
    split at accepted
    · cases accepted
      assumption
    · cases accepted
  cases text with
  | nil => cases parsed
  | cons first rest =>
    simp only [parseInt] at parsed
    split at parsed
    · exact checked parsed
    · split at parsed
      · exact checked parsed
      · exact checked parsed

theorem formatInt_length (bounds : IsInt64 value) : (formatInt value).length ≤ 20 := by
  have digits : (decimal value.natAbs).length ≤ 19 := by
    rw [decimal, length_map, Nat.length_toDigits_le_iff (by decide) (by decide)]
    simp only [IsInt64, minInt64, maxInt64] at bounds
    omega
  unfold formatInt
  split
  · rw [length_cons]
    omega
  · omega

inductive Operation where
  | set
  | get
  | delete
  | health
  | add
  | append
  | other (code : UInt8)
deriving DecidableEq, Repr

def Operation.ofByte (code : UInt8) : Operation :=
  if code = 1 then .set
  else if code = 2 then .get
  else if code = 3 then .delete
  else if code = 4 then .health
  else if code = 5 then .add
  else if code = 6 then .append
  else .other code

inductive Status where
  | ok
  | notFound
  | unauthorized
  | invalid
  | timeout
  | tooLarge
  | internal
deriving DecidableEq, Repr

/-- The timeout is in milliseconds. -/
structure Request where
  operation : Operation
  timeout : Nat
  token : Bytes
  key : Bytes
  value : Bytes
deriving DecidableEq, Repr

structure Response where
  status : Status
  value : Bytes
deriving DecidableEq, Repr

/-- Why a request could not be read; `ending` is the error of the connection. -/
inductive ReadError where
  | connection (ending : String)
  | message (text : String)
  | tooLarge
deriving DecidableEq, Repr

def ReadError.text : ReadError → String
  | .connection ending => ending
  | .message text => text
  | .tooLarge => "coordinator request exceeds configured limits"

def uint32At (header : Bytes) (offset : Nat) : Nat :=
  ((header.drop offset).take 4).foldl (fun sum byte => 256 * sum + byte.toNat) 0

def requestHeader : Nat := 28
def magic : Bytes := ascii "CSKV"
def version : UInt8 := 1

/-- The length of what follows a header. -/
def requestLength (maxKey maxValue : Nat) (header : Bytes) : Except ReadError Nat :=
  if header.take 4 ≠ magic ∨ header.getD 4 0 ≠ version then
    .error (.message "unsupported coordinator protocol")
  else
    let tokenLength := uint32At header 12
    let keyLength := uint32At header 16
    let valueLength := uint32At header 20
    let totalLength := uint32At header 24
    if tokenLength < 1 ∨ totalLength ≠ tokenLength + keyLength + valueLength then
      .error (.message "invalid coordinator request lengths")
    else if keyLength > maxKey ∨ valueLength > maxValue ∨
        totalLength > maxKey + maxValue + 4096 then
      .error .tooLarge
    else .ok totalLength

def requestOf (header payload : Bytes) : Request where
  operation := Operation.ofByte (header.getD 5 0)
  timeout := uint32At header 8
  token := payload.take (uint32At header 12)
  key := (payload.drop (uint32At header 12)).take (uint32At header 16)
  value := payload.drop (uint32At header 12 + uint32At header 16)

def readRequest (maxKey maxValue : Nat) (arrived : Bytes) (ending : String) :
    Except ReadError Request :=
  let header := arrived.take requestHeader
  if header.length < requestHeader then .error (.connection ending)
  else do
    let totalLength ← requestLength maxKey maxValue header
    let payload := (arrived.drop requestHeader).take totalLength
    if payload.length < totalLength then .error (.connection ending)
    else .ok (requestOf header payload)

theorem readRequest_value {maxKey maxValue : Nat} {arrived : Bytes} {ending : String}
    {request : Request} (read : readRequest maxKey maxValue arrived ending = .ok request) :
    request.value.length ≤ maxValue := by
  unfold readRequest at read
  simp only at read
  split at read
  · cases read
  rcases bind_eq_ok.mp read with ⟨totalLength, accepted, read⟩
  unfold requestLength at accepted
  simp only at accepted
  split_ifs at accepted
  cases accepted
  split at read
  · cases read
  cases read
  simp only [requestOf, length_drop, length_take]
  omega

end Coldsnap.Coordinator
