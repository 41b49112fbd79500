import Coldsnap.Foundation.Crc32
import Coldsnap.Foundation.Numerals

/-! # SHA-256 as `hashlib.sha256` computes it

Words are natural numbers below `2 ^ 32`.
-/

namespace Coldsnap.Sha256

def word (value : Nat) : Nat := value % 2 ^ 32

def rotateRight (value count : Nat) : Nat :=
  word (value >>> count ||| value <<< (32 - count))

def roundConstants : List Nat :=
  [0x428a2f98, 0x71374491, 0xb5c0fbcf, 0xe9b5dba5, 0x3956c25b, 0x59f111f1, 0x923f82a4, 0xab1c5ed5,
    0xd807aa98, 0x12835b01, 0x243185be, 0x550c7dc3, 0x72be5d74, 0x80deb1fe, 0x9bdc06a7, 0xc19bf174,
    0xe49b69c1, 0xefbe4786, 0x0fc19dc6, 0x240ca1cc, 0x2de92c6f, 0x4a7484aa, 0x5cb0a9dc, 0x76f988da,
    0x983e5152, 0xa831c66d, 0xb00327c8, 0xbf597fc7, 0xc6e00bf3, 0xd5a79147, 0x06ca6351, 0x14292967,
    0x27b70a85, 0x2e1b2138, 0x4d2c6dfc, 0x53380d13, 0x650a7354, 0x766a0abb, 0x81c2c92e, 0x92722c85,
    0xa2bfe8a1, 0xa81a664b, 0xc24b8b70, 0xc76c51a3, 0xd192e819, 0xd6990624, 0xf40e3585, 0x106aa070,
    0x19a4c116, 0x1e376c08, 0x2748774c, 0x34b0bcb5, 0x391c0cb3, 0x4ed8aa4a, 0x5b9cca4f, 0x682e6ff3,
    0x748f82ee, 0x78a5636f, 0x84c87814, 0x8cc70208, 0x90befffa, 0xa4506ceb, 0xbef9a3f7, 0xc67178f2]

structure Registers where
  a : Nat
  b : Nat
  c : Nat
  d : Nat
  e : Nat
  f : Nat
  g : Nat
  h : Nat

def Registers.initial : Registers :=
  ⟨0x6a09e667, 0xbb67ae85, 0x3c6ef372, 0xa54ff53a, 0x510e527f, 0x9b05688c, 0x1f83d9ab, 0x5be0cd19⟩

def Registers.toList (registers : Registers) : List Nat :=
  [registers.a, registers.b, registers.c, registers.d, registers.e, registers.f, registers.g,
    registers.h]

def Registers.add (left right : Registers) : Registers :=
  ⟨word (left.a + right.a), word (left.b + right.b), word (left.c + right.c),
    word (left.d + right.d), word (left.e + right.e), word (left.f + right.f),
    word (left.g + right.g), word (left.h + right.h)⟩

/-- The message schedule, latest word first. -/
def extendSchedule : Nat → List Nat → List Nat
  | 0, words => words
  | rounds + 1, words =>
    let late := words.getD 1 0
    let early := words.getD 14 0
    let lateMix := rotateRight late 17 ^^^ rotateRight late 19 ^^^ (late >>> 10)
    let earlyMix := rotateRight early 7 ^^^ rotateRight early 18 ^^^ (early >>> 3)
    extendSchedule rounds (word (lateMix + words.getD 6 0 + earlyMix + words.getD 15 0) :: words)

def step (r : Registers) (input : Nat × Nat) : Registers :=
  let mixed := rotateRight r.e 6 ^^^ rotateRight r.e 11 ^^^ rotateRight r.e 25
  let choice := (r.e &&& r.f) ^^^ ((0xffffffff - r.e) &&& r.g)
  let first := word (r.h + mixed + choice + input.1 + input.2)
  let spread := rotateRight r.a 2 ^^^ rotateRight r.a 13 ^^^ rotateRight r.a 22
  let majority := (r.a &&& r.b) ^^^ (r.a &&& r.c) ^^^ (r.b &&& r.c)
  ⟨word (first + spread + majority), r.a, r.b, r.c, word (r.d + first), r.e, r.f, r.g⟩

def compress (registers : Registers) (block : List Nat) : Registers :=
  registers.add ((roundConstants.zip (extendSchedule 48 block.reverse).reverse).foldl step
    registers)

def toWords : List UInt8 → List Nat
  | a :: b :: c :: d :: rest =>
    (a.toNat <<< 24 + b.toNat <<< 16 + c.toNat <<< 8 + d.toNat) :: toWords rest
  | _ => []

def lengthBytes (length : Nat) : List UInt8 :=
  (List.range 8).map fun index => UInt8.ofNat ((8 * length) >>> (56 - 8 * index))

variable (bytes : List UInt8)

def padMessage : List UInt8 :=
  bytes ++ [0x80] ++ List.replicate ((119 - bytes.length % 64) % 64) 0 ++ lengthBytes bytes.length

/-- Feed the words block by block; `fuel` bounds the number of blocks. -/
def feedBlocks : (fuel : Nat) → Registers → List Nat → Registers
  | 0, registers, _ => registers
  | fuel + 1, registers, words =>
    if words.isEmpty then registers
    else feedBlocks fuel (compress registers (words.take 16)) (words.drop 16)

def digest : Registers :=
  feedBlocks (bytes.length / 64 + 2) .initial (toWords (padMessage bytes))

def sha256 : String :=
  String.ofList ((digest bytes).toList.flatMap fun value =>
    (List.range 8).map fun index => Numerals.hexDigit (value >>> (28 - 4 * index) % 16))

theorem sha256_length : (sha256 bytes).length = 64 := by
  simp [sha256, Registers.toList]

theorem sha256_hex :
    ∀ character ∈ (sha256 bytes).toList, character ∈ "0123456789abcdef".toList := by
  intro character member
  simp only [sha256, String.toList_ofList, List.mem_flatMap, List.mem_map] at member
  obtain ⟨_, _, index, _, rfl⟩ := member
  exact Numerals.hexDigit_mem _

/-- The test vector "abc" of the standard. -/
example : sha256 [0x61, 0x62, 0x63] =
    "ba7816bf8f01cfea414140de5dae2223b00361a396177a9cb410ff61f20015ad" := by
  decide +kernel

end Coldsnap.Sha256
