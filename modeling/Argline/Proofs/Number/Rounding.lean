/-
**The nearest double.**

Rounding depends on the fraction as a number only, not on how it is written as a quotient
(`Double.nearestRank_congr`), and a fraction that is a magnitude is rounded to it
(`Double.nearestRank_units`). Less than half a unit is rounded to nothing
(`Double.nearestRank_eq_zero`), and enough units are past the greatest magnitude
(`Double.count_le_nearestRank`).
-/

import Argline.Number.Double
import Mathlib.Algebra.Ring.Nat
import Mathlib.Tactic.Common

namespace Argline

namespace Double

/-! ### Fractions -/

theorem roundQuotient_mul {factor : Nat} (positive : 0 < factor) (numerator denominator : Nat) :
    roundQuotient (factor * numerator) (factor * denominator) =
      roundQuotient numerator denominator := by
  unfold roundQuotient
  rw [Nat.mul_div_mul_left _ _ positive, Nat.mul_mod_mul_left]
  simp only [Nat.mul_left_comm 2 factor, Nat.mul_lt_mul_left positive]

/-- A quotient is rounded down up to the half and up from the half on, at the half to the even one. -/
theorem roundQuotient_cases (numerator denominator : Nat) :
    (roundQuotient numerator denominator = numerator / denominator ∧
      2 * (numerator % denominator) ≤ denominator ∧
      (2 * (numerator % denominator) = denominator → numerator / denominator % 2 = 0)) ∨
    (roundQuotient numerator denominator = numerator / denominator + 1 ∧
      denominator ≤ 2 * (numerator % denominator) ∧
      (2 * (numerator % denominator) = denominator → (numerator / denominator + 1) % 2 = 0)) := by
  unfold roundQuotient
  dsimp only
  by_cases less : 2 * (numerator % denominator) < denominator
  · exact .inl ⟨if_pos less, by omega, by omega⟩
  · rw [if_neg less]
    by_cases more : denominator < 2 * (numerator % denominator)
    · exact .inr ⟨if_pos more, by omega, by omega⟩
    · rw [if_neg more]
      by_cases even : numerator / denominator % 2 = 0
      · exact .inl ⟨if_pos even, by omega, fun _ => even⟩
      · exact .inr ⟨if_neg even, by omega, fun _ => by omega⟩

theorem roundQuotient_exact {denominator : Nat} (positive : 0 < denominator) (quotient : Nat) :
    roundQuotient (quotient * denominator) denominator = quotient := by
  unfold roundQuotient
  rw [Nat.mul_div_cancel _ positive, Nat.mul_mod_left]
  exact if_pos positive

theorem nearestRank_mul {factor : Nat} (positive : 0 < factor) (numerator denominator : Nat) :
    nearestRank (factor * numerator) (factor * denominator) = nearestRank numerator denominator := by
  unfold nearestRank
  dsimp only
  rw [Nat.mul_div_mul_left _ _ positive, Nat.mul_assoc, roundQuotient_mul positive]

/-- **The same number has the same nearest magnitude**, whatever quotient it is written as. -/
theorem nearestRank_congr {numerator denominator otherNumerator otherDenominator : Nat}
    (positive : 0 < denominator) (otherPositive : 0 < otherDenominator)
    (same : numerator * otherDenominator = otherNumerator * denominator) :
    nearestRank numerator denominator = nearestRank otherNumerator otherDenominator :=
  calc nearestRank numerator denominator
      = nearestRank (otherDenominator * numerator) (otherDenominator * denominator) :=
        (nearestRank_mul otherPositive _ _).symm
    _ = nearestRank (denominator * otherNumerator) (denominator * otherDenominator) := by
        rw [Nat.mul_comm otherDenominator numerator, same, Nat.mul_comm otherNumerator,
          Nat.mul_comm otherDenominator]
    _ = nearestRank otherNumerator otherDenominator := nearestRank_mul positive _ _

/-! ### Out of reach -/

/-- A fraction of less than half a unit is rounded to nothing. -/
theorem nearestRank_eq_zero {numerator denominator : Nat} (small : 2 * numerator < denominator) :
    nearestRank numerator denominator = 0 := by
  have quotient : numerator / denominator = 0 := Nat.div_eq_of_lt (by omega)
  unfold nearestRank roundQuotient
  dsimp only
  rw [quotient, Nat.log2_zero, Nat.zero_sub, Nat.pow_eq, Nat.pow_zero, Nat.mul_one, quotient,
    Nat.mod_eq_of_lt (by omega), if_pos small]

/-- A number of units with this many binary digits is past the greatest magnitude. -/
theorem count_le_nearestRank {numerator length : Nat} (large : 2 ^ length ≤ numerator)
    (long : 2099 ≤ length) : Magnitude.count ≤ nearestRank numerator 1 := by
  have nonzero : numerator ≠ 0 :=
    Nat.ne_of_gt (Nat.lt_of_lt_of_le (Nat.two_pow_pos length) large)
  have digits : length ≤ numerator.log2 := (Nat.le_log2 nonzero).mpr large
  have positions : 2047 * 0x10000000000000 ≤ (numerator.log2 - 52) * 0x10000000000000 :=
    Nat.mul_le_mul_right _ (by omega)
  unfold nearestRank
  dsimp only
  rw [Nat.div_one]
  exact Nat.le_trans positions (Nat.le_add_right _ _)

/-! ### Magnitudes -/

/-- The exponent of a magnitude is read off the length of its units in binary. -/
theorem log2_units (magnitude : Magnitude) :
    magnitude.units.log2 - 52 = magnitude.exponent := by
  obtain ⟨significand, exponent, significand_lt, exponent_le, normal⟩ := magnitude
  unfold Magnitude.units
  dsimp only
  rw [Nat.pow_eq]
  rcases normal with rfl | large
  · rw [Nat.pow_zero, Nat.mul_one]
    by_cases zero : significand = 0
    · rw [zero, Nat.log2_zero]
    · have := (Nat.log2_lt zero).mpr (show significand < 2 ^ 53 from significand_lt)
      omega
  · have scale : 0 < 2 ^ exponent := Nat.two_pow_pos exponent
    have positive : significand * 2 ^ exponent ≠ 0 := Nat.mul_ne_zero (by omega) (by omega)
    have length : (significand * 2 ^ exponent).log2 = 52 + exponent := by
      rw [Nat.log2_eq_iff positive, Nat.pow_add, Nat.add_right_comm, Nat.pow_add]
      exact ⟨Nat.mul_le_mul_right _ large, Nat.mul_lt_mul_of_pos_right significand_lt scale⟩
    omega

/-- **A magnitude is the nearest one to itself.** -/
theorem nearestRank_units (magnitude : Magnitude) :
    nearestRank magnitude.units 1 = magnitude.rank := by
  unfold nearestRank Magnitude.rank
  dsimp only
  rw [Nat.div_one, log2_units, Nat.one_mul]
  exact congrArg _ (roundQuotient_exact (Nat.pow_pos (by decide)) _)

theorem ofRank_rank (negative : Bool) (magnitude : Magnitude) :
    ofRank negative magnitude.rank = .finite negative magnitude := by
  unfold ofRank
  rw [dif_pos magnitude.rank_lt, Magnitude.ofRank_rank]

end Double

end Argline
