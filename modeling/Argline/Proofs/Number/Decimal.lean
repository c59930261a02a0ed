/-
**Decimals as numbers.**

* `Decimal.value`: the number a decimal is, of which its double is a matter alone
  (`Decimal.toDouble_congr`);
* `DecimalText.toDouble_eq`: a text that is cut off as out of reach has the double of its number all the
  same.
-/

import Argline.Number.Decimal
import Argline.Proofs.Number.IntegerText
import Argline.Proofs.Number.Rounding
import Mathlib.Data.Rat.Cast.Order
import Mathlib.Tactic.FieldSimp
import Mathlib.Tactic.Linarith
import Mathlib.Tactic.Positivity
import Mathlib.Tactic.Ring

namespace Argline

namespace Decimal

/-- The number a decimal is. -/
def value (decimal : Decimal) : ℚ := decimal.digits * 10 ^ decimal.exponent

/-- A power of ten as the quotient of one that is whole by another. -/
theorem pow_toNat (exponent : ℤ) :
    (10 : ℚ) ^ exponent.toNat = 10 ^ exponent * 10 ^ (-exponent).toNat := by
  rw [← zpow_natCast, ← zpow_natCast, ← zpow_add₀ (by norm_num)]
  congr 1
  omega

theorem denominator_pos (decimal : Decimal) : 0 < decimal.denominator :=
  Nat.pow_pos (by decide)

/-- A decimal is its fraction of units, by the units in the number one. -/
theorem numerator_eq (decimal : Decimal) :
    (decimal.numerator : ℚ) = decimal.value * Double.unitsInOne * decimal.denominator := by
  unfold numerator denominator value
  rw [Nat.pow_eq, Nat.pow_eq]
  push_cast
  rw [pow_toNat]
  ring

/-- **The double of a decimal depends on its number only.** -/
theorem toDouble_congr {decimal other : Decimal} (same : decimal.value = other.value)
    (negative : Bool) : decimal.toDouble negative = other.toDouble negative := by
  have cross : decimal.numerator * other.denominator = other.numerator * decimal.denominator := by
    have exact : (decimal.numerator : ℚ) * other.denominator =
        other.numerator * decimal.denominator := by
      rw [numerator_eq, numerator_eq, same]
      ring
    exact_mod_cast exact
  unfold toDouble Double.nearest
  rw [Double.nearestRank_congr decimal.denominator_pos other.denominator_pos cross]

/-- A decimal that is a magnitude has it as its double. -/
theorem toDouble_of_value {decimal : Decimal} {magnitude : Magnitude}
    (same : decimal.value * Double.unitsInOne = magnitude.units) (negative : Bool) :
    decimal.toDouble negative = .finite negative magnitude := by
  have cross : decimal.numerator * 1 = magnitude.units * decimal.denominator := by
    have exact : (decimal.numerator : ℚ) * 1 = magnitude.units * decimal.denominator := by
      rw [numerator_eq, same, mul_one]
    exact_mod_cast exact
  unfold toDouble Double.nearest
  rw [Double.nearestRank_congr decimal.denominator_pos Nat.one_pos cross,
    Double.nearestRank_units, Double.ofRank_rank]

end Decimal

namespace DecimalText

/-! ### Numbers out of reach -/

/-- How far out the two limits lie: twice the units in one are below the power of ten that vanishes, and
the power of ten that overflows has more units than any magnitude. -/
theorem exists_powers :
    (∃ few ≤ 330, 2 * Double.unitsInOne ≤ 10 ^ few) ∧
      ∃ many ≤ 310, ∃ length ≥ 2099, 2 ^ length ≤ 10 ^ many * Double.unitsInOne :=
  ⟨⟨330, Nat.le_refl _, by decide +kernel⟩,
    ⟨310, Nat.le_refl _, 2099, Nat.le_refl _, by decide +kernel⟩⟩

theorem toDouble_of_vanishes {text : DecimalText}
    (isDigit : ∀ c ∈ text.whole ++ text.fraction, c.isDigit = true)
    (vanishes : text.vanishes = true) (negative : Bool) :
    text.magnitude.toDouble negative = .ofRank negative 0 := by
  have small : 2 * text.magnitude.numerator < text.magnitude.denominator := by
    unfold DecimalText.vanishes at vanishes
    rw [Bool.or_eq_true, decide_eq_true_eq, decide_eq_true_eq] at vanishes
    rcases vanishes with zero | short
    · unfold Decimal.numerator
      rw [zero, Nat.zero_mul, Nat.zero_mul]
      exact text.magnitude.denominator_pos
    · obtain ⟨few, within, units⟩ := exists_powers.1
      have bound : text.magnitude.digits < 10 ^ (text.whole ++ text.fraction).length := by
        simpa [magnitude] using ofDigitChars_lt isDigit 0
      generalize (text.whole ++ text.fraction).length = length at short bound
      have flat : text.magnitude.exponent.toNat = 0 := by omega
      unfold Decimal.numerator Decimal.denominator
      rw [Nat.pow_eq, Nat.pow_eq, flat, Nat.pow_zero, Nat.mul_one]
      calc 2 * (text.magnitude.digits * Double.unitsInOne)
          = text.magnitude.digits * (2 * Double.unitsInOne) := Nat.mul_left_comm _ _ _
        _ ≤ text.magnitude.digits * 10 ^ few := Nat.mul_le_mul_left _ units
        _ < 10 ^ length * 10 ^ few :=
          Nat.mul_lt_mul_of_pos_right bound (Nat.pow_pos (by decide))
        _ = 10 ^ (length + few) := (Nat.pow_add _ _ _).symm
        _ ≤ 10 ^ (-text.magnitude.exponent).toNat :=
          Nat.pow_le_pow_right (by decide) (by omega)
  unfold Decimal.toDouble Double.nearest
  rw [Double.nearestRank_eq_zero small]

theorem toDouble_of_overflows {text : DecimalText} (nonzero : text.magnitude.digits ≠ 0)
    (overflows : text.overflows = true) (negative : Bool) :
    text.magnitude.toDouble negative = .infinite negative := by
  have beyond : 310 < text.magnitude.exponent := of_decide_eq_true overflows
  obtain ⟨many, within, length, long, units⟩ := exists_powers.2
  have large : 2 ^ length ≤ text.magnitude.numerator := by
    have scale : 10 ^ many ≤ 10 ^ text.magnitude.exponent.toNat :=
      Nat.pow_le_pow_right (by decide) (by omega)
    unfold Decimal.numerator
    rw [Nat.pow_eq]
    calc 2 ^ length ≤ 10 ^ many * Double.unitsInOne := units
      _ ≤ 1 * 10 ^ text.magnitude.exponent.toNat * Double.unitsInOne := by
        rw [Nat.one_mul]
        exact Nat.mul_le_mul_right _ scale
      _ ≤ text.magnitude.digits * 10 ^ text.magnitude.exponent.toNat * Double.unitsInOne :=
        Nat.mul_le_mul_right _ (Nat.mul_le_mul_right _ (Nat.one_le_iff_ne_zero.mpr nonzero))
  have whole : text.magnitude.denominator = 1 := by
    unfold Decimal.denominator
    rw [Nat.pow_eq, show (-text.magnitude.exponent).toNat = 0 by omega, Nat.pow_zero]
  unfold Decimal.toDouble Double.nearest Double.ofRank
  rw [whole]
  exact dif_neg (Nat.not_lt.mpr (Double.count_le_nearestRank large long))

/-- **A text has the double of its number**, whether it is worked out or cut off. -/
theorem toDouble_eq {text : DecimalText}
    (isDigit : ∀ c ∈ text.whole ++ text.fraction, c.isDigit = true) :
    text.toDouble = text.magnitude.toDouble text.negative := by
  unfold toDouble
  by_cases vanishes : text.vanishes = true
  · rw [if_pos vanishes, toDouble_of_vanishes isDigit vanishes]
  · rw [if_neg vanishes]
    by_cases overflows : text.overflows = true
    · have nonzero : text.magnitude.digits ≠ 0 := by
        intro zero
        exact vanishes (by simp [DecimalText.vanishes, zero])
      rw [if_pos overflows, toDouble_of_overflows nonzero overflows]
    · rw [if_neg overflows]

end DecimalText

end Argline
