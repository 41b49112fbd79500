import Coldsnap.Foundation.Numerals
import Mathlib.Algebra.Order.Ring.Int
import Mathlib.Data.List.Basic

/-! # CRC-32 as `zlib.crc32` computes it

The running value may be handed back to continue a checksum, so checksumming a
sequence chunk by chunk gives the checksum of the whole.
-/

namespace Coldsnap.Crc32

open Numerals

/-- The reflected polynomial of IEEE 802.3. -/
def polynomial : BitVec 32 := 0xEDB88320#32

def shiftBit (register : BitVec 32) : BitVec 32 :=
  if register.getLsbD 0 then (register >>> 1) ^^^ polynomial else register >>> 1

def feed (register : BitVec 32) (byte : UInt8) : BitVec 32 :=
  Nat.repeat shiftBit 8 (register ^^^ BitVec.ofNat 32 byte.toNat)

def invert (register : BitVec 32) : BitVec 32 := register ^^^ 0xFFFFFFFF#32

def crc32 (data : List UInt8) (value : BitVec 32) : BitVec 32 :=
  invert (data.foldl feed (invert value))

@[simp] theorem invert_invert (register : BitVec 32) : invert (invert register) = register := by
  rw [invert, invert, BitVec.xor_assoc, BitVec.xor_self, BitVec.xor_zero]

variable (value : BitVec 32)

@[simp] theorem crc32_nil : crc32 [] value = value := by
  simp [crc32]

/-- Checksumming a second chunk from the value of the first. -/
theorem crc32_append (first second : List UInt8) (value : BitVec 32) :
    crc32 (first ++ second) value = crc32 second (crc32 first value) := by
  simp [crc32]

def hex8 (value : BitVec 32) : String :=
  String.ofList ((List.range 8).map fun index =>
    hexDigit ((value >>> (28 - 4 * index)).toNat % 16))

@[simp] theorem hex8_length : (hex8 value).length = 8 := by
  simp [hex8]

theorem hex8_hex : ∀ character ∈ (hex8 value).toList, character ∈ "0123456789abcdef".toList := by
  intro character member
  simp only [hex8, String.toList_ofList, List.mem_map] at member
  rcases member with ⟨index, _, rfl⟩
  exact hexDigit_mem _

/-- The check value of the standard. -/
example : crc32 [0x31, 0x32, 0x33, 0x34, 0x35, 0x36, 0x37, 0x38, 0x39] 0 = 0xCBF43926#32 := by
  decide +kernel

example : hex8 0xCBF43926#32 = "cbf43926" := by decide

end Coldsnap.Crc32
