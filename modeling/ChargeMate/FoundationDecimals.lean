import Mathlib.Algebra.Order.Field.Power
import Mathlib.Data.Nat.Digits.Defs
import Mathlib.Data.Rat.Lemmas
import Mathlib.Algebra.Order.Ring.Rat
import Mathlib.Tactic.Positivity

/-! Decimal numerals, as a coefficient and a power of ten, and how many of their digits stand
before and after the point. -/

namespace Decimals

structure Numeral where
  coefficient : Int
  exponent : Int
  deriving DecidableEq

namespace Numeral

def value (d : Numeral) : Rat := d.coefficient * 10 ^ d.exponent

/-- The digits after the point. -/
def places (d : Numeral) : Nat := (-d.exponent).toNat

/-- The digits before the point, without leading zeros. -/
def wholeDigits (d : Numeral) : Nat :=
  ((Nat.digits 10 d.coefficient.natAbs).length + d.exponent).toNat

/-- Shifted by its places, a numeral is a whole number. -/
theorem exists_int_of_places {d : Numeral} {scale : Nat} (h : d.places ≤ scale) :
    ∃ n : Int, d.value * 10 ^ scale = n := by
  rw [places] at h
  obtain ⟨shift, hshift⟩ := Int.eq_ofNat_of_zero_le (show 0 ≤ d.exponent + scale by omega)
  refine ⟨d.coefficient * 10 ^ shift, ?_⟩
  calc d.value * 10 ^ scale
      = d.coefficient * ((10 : Rat) ^ d.exponent * 10 ^ (scale : Int)) := by
        rw [value, mul_assoc, zpow_natCast]
    _ = d.coefficient * (10 : Rat) ^ (shift : Int) := by
        rw [← zpow_add₀ (by norm_num), hshift]
    _ = ((d.coefficient * 10 ^ shift : Int) : Rat) := by
        rw [zpow_natCast]
        push_cast
        rfl

theorem abs_value_lt (d : Numeral) : |d.value| < 10 ^ d.wholeDigits := by
  have hcoefficient : |(d.coefficient : Rat)| <
      10 ^ ((Nat.digits 10 d.coefficient.natAbs).length : Int) := by
    have hlt : d.coefficient.natAbs < 10 ^ (Nat.digits 10 d.coefficient.natAbs).length :=
      Nat.lt_base_pow_length_digits (by norm_num)
    rw [zpow_natCast, ← Int.cast_abs, Int.abs_eq_natAbs]
    exact_mod_cast hlt
  have hpow : (0 : Rat) < 10 ^ d.exponent := by positivity
  calc |d.value|
      = |(d.coefficient : Rat)| * 10 ^ d.exponent := by rw [value, abs_mul, abs_of_pos hpow]
    _ < 10 ^ ((Nat.digits 10 d.coefficient.natAbs).length : Int) * 10 ^ d.exponent :=
        mul_lt_mul_of_pos_right hcoefficient hpow
    _ = (10 : Rat) ^ ((Nat.digits 10 d.coefficient.natAbs).length + d.exponent) :=
        (zpow_add₀ (by norm_num) _ _).symm
    _ ≤ 10 ^ (d.wholeDigits : Int) :=
        zpow_le_zpow_right₀ (by norm_num) (Int.self_le_toNat _)
    _ = 10 ^ d.wholeDigits := zpow_natCast _ _

end Numeral

end Decimals
