import Mathlib.Algebra.Order.Ring.Int
import Mathlib.Data.Int.ConditionallyCompleteOrder
import Mathlib.Data.List.Lex

/-! # Code points

Surrogates of UTF-16, and UTF-8, whose byte order is the order of the code points.
-/

namespace Coldsnap.Unicode

open List

def isHigh (unit : Nat) : Bool := 0xD800 ≤ unit && unit < 0xDC00

def isLow (unit : Nat) : Bool := 0xDC00 ≤ unit && unit < 0xE000

def isSurrogate (unit : Nat) : Bool := 0xD800 ≤ unit && unit < 0xE000

def combine (high low : Nat) : Nat := 0x10000 + (high - 0xD800) * 1024 + (low - 0xDC00)

def highOf (code : Nat) : Nat := 0xD800 + (code - 0x10000) / 1024 % 1024

def lowOf (code : Nat) : Nat := 0xDC00 + (code - 0x10000) % 1024

variable {unit : Nat}

theorem isHigh_iff : isHigh unit = true ↔ 0xD800 ≤ unit ∧ unit < 0xDC00 := by
  simp [isHigh]

theorem isLow_iff : isLow unit = true ↔ 0xDC00 ≤ unit ∧ unit < 0xE000 := by
  simp [isLow]

theorem isSurrogate_iff : isSurrogate unit = true ↔ isHigh unit = true ∨ isLow unit = true := by
  simp only [isSurrogate, isHigh, isLow, Bool.and_eq_true, decide_eq_true_eq]
  omega

variable (code : Nat)

theorem highOf_high : isHigh (highOf code) = true := by
  rw [isHigh_iff, highOf]
  omega

theorem lowOf_low : isLow (lowOf code) = true := by
  rw [isLow_iff, lowOf]
  omega

theorem combine_large (high low : Nat) : 0x10000 ≤ combine high low := by
  unfold combine
  omega

def utf8 (code : Nat) : List Nat :=
  if code < 0x80 then [code]
  else if code < 0x800 then [0xC0 + code / 64, 0x80 + code % 64]
  else if code < 0x10000 then [0xE0 + code / 4096, 0x80 + code / 64 % 64, 0x80 + code % 64]
  else [0xF0 + code / 262144, 0x80 + code / 4096 % 64, 0x80 + code / 64 % 64, 0x80 + code % 64]

/-- The smaller code point has the smaller bytes, whatever follows. -/
theorem utf8_lt {left right : Nat} (less : left < right) (behind after : List Nat) :
    utf8 left ++ behind < utf8 right ++ after := by
  unfold utf8
  split
  · split
    · simp [cons_lt_cons_iff, less]
    · split
      · simp only [cons_append, cons_lt_cons_iff]
        omega
      · split <;> simp only [cons_append, cons_lt_cons_iff] <;> omega
  · split
    · rw [if_neg (by omega)]
      split
      · simp only [cons_append, cons_lt_cons_iff]
        omega
      · split <;> simp only [cons_append, cons_lt_cons_iff] <;> omega
    · split
      · rw [if_neg (by omega), if_neg (by omega)]
        split <;> simp only [cons_append, cons_lt_cons_iff] <;> omega
      · rw [if_neg (by omega), if_neg (by omega), if_neg (by omega)]
        simp only [cons_append, cons_lt_cons_iff]
        omega

theorem utf8_ne_nil : utf8 code ≠ [] := by
  unfold utf8
  split
  · simp
  · split
    · simp
    · split <;> simp

def encode (text : List Nat) : List Nat := text.flatMap utf8

theorem encode_strictMono : StrictMono encode := by
  intro left right less
  induction less with
  | nil =>
    rename_i code rest
    rw [encode, encode, flatMap_nil, flatMap_cons]
    cases bytes : utf8 code with
    | nil => exact absurd bytes (utf8_ne_nil code)
    | cons first others => exact nil_lt_cons _ _
  | rel less => exact utf8_lt less _ _
  | cons less induction =>
    exact append_left_lt induction

end Coldsnap.Unicode
