import Mathlib.Data.List.Basic

/-! # Numerals

The digits of numbers in base sixteen and the values of numerals in base ten.
-/

namespace Coldsnap.Numerals

def hexDigit (value : Nat) : Char := "0123456789abcdef".toList.getD value '0'

def hexValue (digit : Char) : Nat := "0123456789abcdef".toList.idxOf digit

theorem hexDigit_mem (value : Nat) : hexDigit value ∈ "0123456789abcdef".toList := by
  unfold hexDigit
  rw [List.getD_eq_getElem?_getD]
  cases found : "0123456789abcdef".toList[value]? with
  | none => decide
  | some character => exact List.mem_of_getElem? found

theorem hexValue_hexDigit (value : Nat) : hexValue (hexDigit (value % 16)) = value % 16 := by
  have all : ∀ nibble : Fin 16, hexValue (hexDigit nibble) = nibble := by decide
  exact all ⟨value % 16, Nat.mod_lt _ (by decide)⟩

/-- Four digits, the most significant one first. -/
def hexDigits (value : Nat) : List Char :=
  [hexDigit (value / 4096 % 16), hexDigit (value / 256 % 16), hexDigit (value / 16 % 16),
    hexDigit (value % 16)]

theorem mem_hexDigits {character : Char} {value : Nat} (member : character ∈ hexDigits value) :
    ∃ nibble : Fin 16, character = hexDigit nibble := by
  have small : ∀ value, ∃ nibble : Fin 16, hexDigit (value % 16) = hexDigit nibble :=
    fun value => ⟨⟨value % 16, Nat.mod_lt _ (by decide)⟩, rfl⟩
  simp only [hexDigits, List.mem_cons, List.not_mem_nil, or_false] at member
  rcases member with rfl | rfl | rfl | rfl <;> exact small _

def fourHexValue (first second third fourth : Char) : Nat :=
  4096 * hexValue first + 256 * hexValue second + 16 * hexValue third + hexValue fourth

theorem fourHexValue_hexDigits {value : Nat} (small : value < 65536) :
    fourHexValue (hexDigit (value / 4096 % 16)) (hexDigit (value / 256 % 16))
      (hexDigit (value / 16 % 16)) (hexDigit (value % 16)) = value := by
  simp only [fourHexValue, hexValue_hexDigit]
  omega

def decimalValue (digits : List Char) : Nat := Nat.ofDigitChars 10 digits 0

theorem decimalValue_toDigits (value : Nat) : decimalValue (Nat.toDigits 10 value) = value :=
  Nat.ofDigitChars_toDigits (by decide) (by decide)

end Coldsnap.Numerals
