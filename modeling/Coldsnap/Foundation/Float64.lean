import Mathlib.Data.Int.Log
import Mathlib.Data.Rat.Floor
import Mathlib.Tactic.Positivity

/-! # Double precision numbers

The double next to a rational number, ties to even. The range of exponents is not
bounded, so overflow and subnormal numbers are left out.
-/

namespace Coldsnap.Float64

/-- The integer next to a number, ties to even. -/
def roundHalfEven (x : Rat) : Int :=
  if x - ⌊x⌋ < 1 / 2 then ⌊x⌋
  else if 1 / 2 < x - ⌊x⌋ then ⌊x⌋ + 1
  else if ⌊x⌋ % 2 = 0 then ⌊x⌋ else ⌊x⌋ + 1

theorem roundHalfEven_near (x : Rat) : |(roundHalfEven x : Rat) - x| ≤ 1 / 2 := by
  have below := Int.floor_le x
  have above := Int.lt_floor_add_one x
  rw [abs_le]
  unfold roundHalfEven
  split
  · constructor <;> linarith
  · split
    · push_cast
      constructor <;> linarith
    · split <;> push_cast <;> constructor <;> linarith

variable {x : Rat}

theorem roundHalfEven_eq {integer : Int} (close : |x - integer| < 1 / 2) :
    roundHalfEven x = integer := by
  have near := roundHalfEven_near x
  rw [abs_lt] at close
  rw [abs_le] at near
  have less : (roundHalfEven x : Rat) < integer + 1 := by linarith
  have more : (integer : Rat) < roundHalfEven x + 1 := by linarith
  have lessInt : roundHalfEven x < integer + 1 := by exact_mod_cast less
  have moreInt : integer < roundHalfEven x + 1 := by exact_mod_cast more
  omega

def ulp (x : Rat) : Rat := 2 ^ (Int.log 2 |x| - 52)

theorem ulp_pos (x : Rat) : 0 < ulp x := zpow_pos (by norm_num) _

def nearest (x : Rat) : Rat := if x = 0 then 0 else roundHalfEven (x / ulp x) * ulp x

theorem ulp_le (nonzero : x ≠ 0) : ulp x ≤ |x| / 2 ^ 52 := by
  have power := Int.zpow_log_le_self (b := 2) (by decide) (abs_pos.mpr nonzero)
  rw [ulp, zpow_sub₀ (by norm_num)]
  gcongr
  · exact_mod_cast power
  · norm_num

/-- A double is off by at most half the distance to its neighbours. -/
theorem nearest_near (x : Rat) : |nearest x - x| ≤ |x| / 2 ^ 53 := by
  unfold nearest
  split
  · next zero => simp [zero]
  · next nonzero =>
      have positive := ulp_pos x
      have scaled : (roundHalfEven (x / ulp x) : Rat) * ulp x - x =
          ((roundHalfEven (x / ulp x) : Rat) - x / ulp x) * ulp x := by
        field_simp
      rw [scaled, abs_mul, abs_of_pos positive]
      calc |(roundHalfEven (x / ulp x) : Rat) - x / ulp x| * ulp x ≤ 1 / 2 * (|x| / 2 ^ 52) := by
            gcongr
            · exact roundHalfEven_near _
            · exact ulp_le nonzero
        _ = |x| / 2 ^ 53 := by ring

/-- A whole number of thousandths, turned into units and back. -/
theorem roundHalfEven_thousandths {count : Nat} (small : count < 2 ^ 40) :
    roundHalfEven (nearest (nearest (count / 1000) * 1000)) = count := by
  have bound : (count : Rat) < 2 ^ 40 := by exact_mod_cast small
  have nonnegative : (0 : Rat) ≤ count := Nat.cast_nonneg count
  have first := nearest_near (count / 1000 : Rat)
  have second := nearest_near (nearest (count / 1000 : Rat) * 1000)
  rw [abs_of_nonneg (by positivity : (0 : Rat) ≤ count / 1000), abs_le] at first
  have upper : |nearest (count / 1000 : Rat) * 1000| ≤ 2 * count := by
    rw [abs_le]
    constructor <;> linarith [first.1, first.2]
  have last : |nearest (nearest (count / 1000 : Rat) * 1000) -
      nearest (count / 1000 : Rat) * 1000| ≤ 2 * count / 2 ^ 53 :=
    second.trans (by gcongr)
  rw [abs_le] at last
  apply roundHalfEven_eq
  rw [abs_lt]
  push_cast
  constructor <;> linarith [first.1, first.2, last.1, last.2]

@[simp] theorem nearest_zero : nearest 0 = 0 := if_pos rfl

theorem nearest_nonneg (nonnegative : 0 ≤ x) : 0 ≤ nearest x := by
  have near := nearest_near x
  rw [abs_of_nonneg nonnegative, abs_le] at near
  linarith [near.1]

/-- Thousandths keep their order. -/
theorem nearest_thousandths_le {count limit : Nat} (inside : count ≤ limit)
    (small : limit < 2 ^ 40) : nearest (count / 1000) ≤ nearest (limit / 1000) := by
  rcases Nat.eq_or_lt_of_le inside with equal | less
  · rw [equal]
  · have bound : (limit : Rat) < 2 ^ 40 := by exact_mod_cast small
    have apart : (count : Rat) + 1 ≤ limit := by exact_mod_cast less
    have first := nearest_near (count / 1000 : Rat)
    have second := nearest_near (limit / 1000 : Rat)
    rw [abs_of_nonneg (by positivity : (0 : Rat) ≤ count / 1000), abs_le] at first
    rw [abs_of_nonneg (by positivity : (0 : Rat) ≤ limit / 1000), abs_le] at second
    linarith [first.2, second.1]

end Coldsnap.Float64
