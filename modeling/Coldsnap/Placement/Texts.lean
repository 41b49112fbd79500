import Coldsnap.Foundation.Numerals
import Coldsnap.Placement.Addresses

/-! # Address texts

IPv4 addresses in dotted decimals, IPv6 addresses as eight groups of four digits. `net/netip`
also leaves out zeros of the latter.
-/

namespace Coldsnap.Placement

open Address Numerals List

def parseGroup : List Char → Option Nat
  | [first, second, third, fourth] => some (fourHexValue first second third fourth)
  | _ => none

theorem parseGroup_hexDigits {value : Nat} (bound : value < 65536) :
    parseGroup (hexDigits value) = some value :=
  congrArg some (fourHexValue_hexDigits bound)

variable {character : Char}

theorem hexDigits_plain (value : Nat) (member : character ∈ hexDigits value) :
    character ≠ ':' ∧ character ≠ '=' := by
  have plain : ∀ nibble : Fin 16, hexDigit nibble ≠ ':' ∧ hexDigit nibble ≠ '=' := by decide
  rcases mem_hexDigits member with ⟨nibble, rfl⟩
  exact plain nibble

/-- The two groups of a word, the bytes of which are packed from the lowest on. -/
def wordGroups (word : UInt32) : List Nat :=
  [256 * byte word 0 + byte word 1, 256 * byte word 2 + byte word 3]

def wordOf (first second third fourth : Nat) : UInt32 :=
  UInt32.ofNat (first + 256 * second + 65536 * third + 16777216 * fourth)

variable (word : UInt32)

theorem wordOf_bytes : wordOf (byte word 0) (byte word 1) (byte word 2) (byte word 3) = word := by
  apply UInt32.toNat_inj.mp
  have bound : word.toNat < 4294967296 := word.toNat_lt
  simp only [wordOf, byte, UInt32.toNat_ofNat']
  omega

def groupsWord (high low : Nat) : UInt32 := wordOf (high / 256) (high % 256) (low / 256) (low % 256)

theorem groupsWord_wordGroups :
    groupsWord (256 * byte word 0 + byte word 1) (256 * byte word 2 + byte word 3) = word := by
  have bound : ∀ index, byte word index < 256 := fun index => Nat.mod_lt _ (by decide)
  have second := bound 1
  have fourth := bound 3
  have high : (256 * byte word 0 + byte word 1) / 256 = byte word 0 ∧
      (256 * byte word 0 + byte word 1) % 256 = byte word 1 := by omega
  have low : (256 * byte word 2 + byte word 3) / 256 = byte word 2 ∧
      (256 * byte word 2 + byte word 3) % 256 = byte word 3 := by omega
  rw [groupsWord, high.1, high.2, low.1, low.2, wordOf_bytes]

def decimalParts (word : UInt32) : List (List Char) :=
  (range 4).map fun index => Nat.toDigits 10 (byte word index)

def groupParts (first second third fourth : UInt32) : List (List Char) :=
  ([first, second, third, fourth].flatMap wordGroups).map hexDigits

def addressChars : Address → List Char
  | .ip4 word => ['.'].intercalate (decimalParts word)
  | .ip6 first second third fourth => [':'].intercalate (groupParts first second third fourth)

def parseChars (text : List Char) : Option Address :=
  match text.splitOn ':' with
  | [plain] =>
    match (plain.splitOn '.').map decimalValue with
    | [first, second, third, fourth] => some (.ip4 (wordOf first second third fourth))
    | _ => none
  | parts =>
    match parts.filterMap parseGroup with
    | [a, b, c, d, e, f, g, h] =>
      some (.ip6 (groupsWord a b) (groupsWord c d) (groupsWord e f) (groupsWord g h))
    | _ => none

theorem digits_plain {value : Nat} (member : character ∈ Nat.toDigits 10 value) :
    character ≠ '.' ∧ character ≠ ':' ∧ character ≠ '=' := by
  have digit := Nat.isDigit_of_mem_toDigits (by decide) (by decide) member
  refine ⟨?_, ?_, ?_⟩ <;>
  · intro equal
    rw [equal] at digit
    exact absurd digit (by decide)

theorem mem_intercalate {separator : Char} {parts : List (List Char)}
    (member : character ∈ [separator].intercalate parts) :
    character = separator ∨ ∃ part ∈ parts, character ∈ part := by
  induction parts with
  | nil => simp at member
  | cons part parts induction =>
    cases parts with
    | nil => exact .inr ⟨part, mem_cons_self, by simpa using member⟩
    | cons next parts =>
      rw [intercalate_cons_cons, append_assoc, mem_append, mem_append, mem_singleton] at member
      rcases member with here | equal | later
      · exact .inr ⟨part, mem_cons_self, here⟩
      · exact .inl equal
      · rcases induction later with equal | ⟨other, listed, inside⟩
        · exact .inl equal
        · exact .inr ⟨other, mem_cons_of_mem _ listed, inside⟩

theorem decimalParts_plain {word : UInt32} {part : List Char} (listed : part ∈ decimalParts word)
    (member : character ∈ part) : character ≠ '.' ∧ character ≠ ':' ∧ character ≠ '=' := by
  rcases mem_map.mp listed with ⟨index, -, equal⟩
  rw [← equal] at member
  exact digits_plain member

theorem groupParts_plain {first second third fourth : UInt32} {part : List Char}
    (listed : part ∈ groupParts first second third fourth) (member : character ∈ part)
    : character ≠ ':' ∧ character ≠ '=' := by
  rcases mem_map.mp listed with ⟨value, -, equal⟩
  rw [← equal] at member
  exact hexDigits_plain value member

theorem split_decimalParts : (addressChars (.ip4 word)).splitOn '.' = decimalParts word :=
  splitOn_intercalate '.' (fun _ listed inside => (decimalParts_plain listed inside).1 rfl)
    (by simp [decimalParts])

theorem split_groupParts (first second third fourth : UInt32) :
    (addressChars (.ip6 first second third fourth)).splitOn ':' =
      groupParts first second third fourth :=
  splitOn_intercalate ':' (fun _ listed inside => (groupParts_plain listed inside).1 rfl)
    (by simp [groupParts, wordGroups])

theorem split_whole : (addressChars (.ip4 word)).splitOn ':' = [addressChars (.ip4 word)] := by
  apply splitOn_eq_singleton
  intro inside
  rcases mem_intercalate inside with equal | ⟨piece, member, within⟩
  · exact absurd equal (by decide)
  · exact (decimalParts_plain member within).2.1 rfl

variable (address : Address)

theorem addressChars_plain : '=' ∉ addressChars address ∧ addressChars address ≠ [] := by
  cases address with
  | ip4 word =>
    constructor
    · intro member
      rcases mem_intercalate member with equal | ⟨part, listed, inside⟩
      · exact absurd equal (by decide)
      · exact (decimalParts_plain listed inside).2.2 rfl
    · intro empty
      have split := split_decimalParts word
      rw [empty] at split
      exact absurd (congrArg length split) (by simp [decimalParts])
  | ip6 first second third fourth =>
    constructor
    · intro member
      rcases mem_intercalate member with equal | ⟨part, listed, inside⟩
      · exact absurd equal (by decide)
      · exact (groupParts_plain listed inside).2 rfl
    · intro empty
      cases empty

theorem parseChars_addressChars : parseChars (addressChars address) = some address := by
  cases address with
  | ip4 word =>
    have values : (decimalParts word).map decimalValue =
        [byte word 0, byte word 1, byte word 2, byte word 3] := by
      simp [decimalParts, range_succ, decimalValue_toDigits]
    simp [parseChars, split_whole, split_decimalParts, values, wordOf_bytes]
  | ip6 first second third fourth =>
    have bound : ∀ word index, byte word index < 256 := fun _ _ => Nat.mod_lt _ (by decide)
    have group : ∀ word high low, 256 * byte word high + byte word low < 65536 := by
      intro word high low
      have upper := bound word high
      have lower := bound word low
      omega
    rw [parseChars, split_groupParts]
    simp [groupParts, wordGroups, parseGroup_hexDigits, group, groupsWord_wordGroups]

theorem ofList_addressChars_plain :
    '=' ∉ (String.ofList (addressChars address)).toList ∧
      (String.ofList (addressChars address)).toList ≠ [] := by
  rw [String.toList_ofList]
  exact addressChars_plain address

@[reducible] def Netip.expanded : Netip where
  parseAddr text := parseChars text.toList
  text address := .ofList (addressChars address)
  parse_text address := by simp [parseChars_addressChars]
  text_plain := ofList_addressChars_plain

end Coldsnap.Placement
