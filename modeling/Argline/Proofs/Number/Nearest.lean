/-
**Rounding to the nearest double.**

Past the greatest magnitude the positions go on as though the exponents did; a number is rounded there
first, and is then infinite.

* `Magnitude.unitsAt`: the units at a position, which ascend (`Magnitude.unitsAt_strictMono`);
* `Double.IsNearest`: the specification, that no position is nearer to a number, and that it is the even
  one of two that are as near;
* `Double.isNearest_nearestRank`: rounding meets it;
* `Double.IsNearest.mono`: the greater a number, the greater the position; there is only one for each.
-/

import Argline.Proofs.Number.Decimal
import Mathlib.Order.Monotone.Basic

namespace Argline

namespace Magnitude

/-- The units at a position. -/
def unitsAt (position : ℕ) : ℕ :=
  (position - (position / 0x10000000000000 - 1) * 0x10000000000000) *
    2 ^ (position / 0x10000000000000 - 1)

/-- The position of a significand with its exponent. A significand of `2^53` is allowed. -/
theorem unitsAt_eq {exponent significand : ℕ} (le : significand ≤ 0x20000000000000)
    (normal : exponent = 0 ∨ 0x10000000000000 ≤ significand) :
    unitsAt (exponent * 0x10000000000000 + significand) = significand * 2 ^ exponent := by
  unfold unitsAt
  by_cases last : significand = 0x20000000000000
  · rw [show (exponent * 0x10000000000000 + significand) / 0x10000000000000 - 1 = exponent + 1 by omega,
      show exponent * 0x10000000000000 + significand - (exponent + 1) * 0x10000000000000 =
        0x10000000000000 by omega, last, Nat.pow_succ', ← Nat.mul_assoc]
  · rw [show (exponent * 0x10000000000000 + significand) / 0x10000000000000 - 1 = exponent by omega,
      Nat.add_sub_cancel_left]

theorem unitsAt_rank (magnitude : Magnitude) : unitsAt magnitude.rank = magnitude.units :=
  unitsAt_eq (Nat.le_of_lt magnitude.significand_lt) magnitude.normal

/-- **The units ascend.** -/
theorem unitsAt_strictMono : StrictMono unitsAt := by
  refine strictMono_nat_of_lt_succ fun position => ?_
  obtain ⟨exponent, significand, place, lt, normal⟩ : ∃ exponent significand,
      position = exponent * 0x10000000000000 + significand ∧ significand < 0x20000000000000 ∧
        (exponent = 0 ∨ 0x10000000000000 ≤ significand) :=
    ⟨position / 0x10000000000000 - 1,
      position - (position / 0x10000000000000 - 1) * 0x10000000000000, by omega, by omega, by omega⟩
  rw [place, Nat.add_assoc, unitsAt_eq (Nat.le_of_lt lt) normal,
    unitsAt_eq lt (normal.imp_right Nat.le_succ_of_le)]
  exact Nat.mul_lt_mul_of_pos_right (Nat.lt_succ_self _) (Nat.two_pow_pos _)

end Magnitude

namespace Double

/-- **A position is nearest to a number of units**: no other one is nearer, and where one is as near, this
is an even one. -/
structure IsNearest (units : ℚ) (position : ℕ) : Prop where
  closest (other : ℕ) :
    |units - Magnitude.unitsAt position| ≤ |units - Magnitude.unitsAt other|
  even (other : ℕ) (apart : other ≠ position)
    (tie : |units - Magnitude.unitsAt position| = |units - Magnitude.unitsAt other|) :
    position % 2 = 0

/-! ### Midpoints -/

section Midpoint

variable {number low high : ℚ}

/-- Which of two numbers is nearer is told by the side of their midpoint. -/
theorem abs_sub_high_le_iff (apart : low < high) :
    |number - high| ≤ |number - low| ↔ low + high ≤ 2 * number := by
  have factors : (number - low) ^ 2 - (number - high) ^ 2 =
      (high - low) * (2 * number - (low + high)) := by ring
  rw [← sq_le_sq, ← sub_nonneg, factors, mul_nonneg_iff_of_pos_left (sub_pos.mpr apart), sub_nonneg]

theorem abs_sub_low_le_iff (apart : low < high) :
    |number - low| ≤ |number - high| ↔ 2 * number ≤ low + high := by
  have factors : (number - high) ^ 2 - (number - low) ^ 2 =
      (high - low) * (low + high - 2 * number) := by ring
  rw [← sq_le_sq, ← sub_nonneg, factors, mul_nonneg_iff_of_pos_left (sub_pos.mpr apart), sub_nonneg]

theorem two_mul_eq_of_tie (apart : low < high) (tie : |number - low| = |number - high|) :
    2 * number = low + high :=
  le_antisymm ((abs_sub_low_le_iff apart).mp tie.le) ((abs_sub_high_le_iff apart).mp tie.ge)

end Midpoint

theorem unitsAt_lt {position other : ℕ} (less : position < other) :
    (Magnitude.unitsAt position : ℚ) < Magnitude.unitsAt other :=
  Nat.cast_lt.mpr (Magnitude.unitsAt_strictMono less)

theorem unitsAt_le {position other : ℕ} (le : position ≤ other) :
    (Magnitude.unitsAt position : ℚ) ≤ Magnitude.unitsAt other :=
  Nat.cast_le.mpr (Magnitude.unitsAt_strictMono.monotone le)

/-- **A greater number is nearest to no smaller position.** -/
theorem IsNearest.mono {units more : ℚ} {position other : ℕ} (nearest : IsNearest units position)
    (others : IsNearest more other) (le : units ≤ more) : position ≤ other := by
  by_contra less
  have apart := unitsAt_lt (Nat.not_le.mp less)
  have above := (abs_sub_high_le_iff apart).mp (nearest.closest other)
  have below := (abs_sub_low_le_iff apart).mp (others.closest position)
  have same : units = more := by linarith
  -- Both are as near to the one number, hence even, so that there is a nearer one between them.
  have tie : |units - Magnitude.unitsAt other| = |units - Magnitude.unitsAt position| :=
    le_antisymm (same ▸ others.closest position) (nearest.closest other)
  have even := nearest.even other (by omega) tie.symm
  have evenOther := others.even position (by omega) (same ▸ tie)
  have between : other + 1 < position := by omega
  have nearer := (abs_sub_high_le_iff (unitsAt_lt between)).mp (nearest.closest (other + 1))
  have := unitsAt_lt (Nat.lt_succ_self other)
  linarith

/-- **Only one position is nearest to a number.** -/
theorem IsNearest.unique {units : ℚ} {position other : ℕ} (nearest : IsNearest units position)
    (others : IsNearest units other) : position = other :=
  Nat.le_antisymm (nearest.mono others (le_refl _)) (others.mono nearest (le_refl _))

/-! ### Between two positions -/

section Between

variable {units : ℚ} {position : ℕ}

theorem isNearest_low (inside : (Magnitude.unitsAt position : ℚ) ≤ units)
    (low : 2 * units ≤ Magnitude.unitsAt position + Magnitude.unitsAt (position + 1))
    (even : 2 * units = Magnitude.unitsAt position + Magnitude.unitsAt (position + 1) →
      position % 2 = 0) : IsNearest units position where
  closest other := by
    rcases Nat.lt_trichotomy other position with less | rfl | more
    · have := unitsAt_lt less
      exact (abs_sub_high_le_iff this).mpr (by linarith)
    · exact le_refl _
    · have := unitsAt_le (Nat.succ_le_of_lt more)
      exact (abs_sub_low_le_iff (unitsAt_lt more)).mpr (by linarith)
  even other apart tie := by
    rcases Nat.lt_or_gt_of_ne apart with less | more
    · have := unitsAt_lt less
      have := two_mul_eq_of_tie this tie.symm
      linarith
    · have := unitsAt_le (Nat.succ_le_of_lt more)
      have := two_mul_eq_of_tie (unitsAt_lt more) tie
      exact even (by linarith)

theorem isNearest_high (inside : units ≤ Magnitude.unitsAt (position + 1))
    (high : (Magnitude.unitsAt position + Magnitude.unitsAt (position + 1) : ℚ) ≤ 2 * units)
    (even : 2 * units = Magnitude.unitsAt position + Magnitude.unitsAt (position + 1) →
      (position + 1) % 2 = 0) : IsNearest units (position + 1) where
  closest other := by
    rcases Nat.lt_trichotomy other (position + 1) with less | rfl | more
    · have := unitsAt_le (Nat.le_of_lt_succ less)
      exact (abs_sub_high_le_iff (unitsAt_lt less)).mpr (by linarith)
    · exact le_refl _
    · have := unitsAt_lt more
      exact (abs_sub_low_le_iff this).mpr (by linarith)
  even other apart tie := by
    rcases Nat.lt_or_gt_of_ne apart with less | more
    · have := unitsAt_le (Nat.le_of_lt_succ less)
      have := two_mul_eq_of_tie (unitsAt_lt less) tie.symm
      exact even (by linarith)
    · have := unitsAt_lt more
      have := two_mul_eq_of_tie this tie
      linarith

/-- The remainder of a division tells on which side of the midpoint a number is. -/
theorem isNearest_of_remainder {remainder scale : ℕ} {factor : ℚ} (positive : 0 < factor)
    (low : (units - Magnitude.unitsAt position) * factor = remainder)
    (high : (Magnitude.unitsAt (position + 1) - units) * factor = scale - remainder)
    (inside : remainder < scale) :
    (2 * remainder ≤ scale → (2 * remainder = scale → position % 2 = 0) →
      IsNearest units position) ∧
    (scale ≤ 2 * remainder → (2 * remainder = scale → (position + 1) % 2 = 0) →
      IsNearest units (position + 1)) := by
  have below : 2 * units ≤ Magnitude.unitsAt position + Magnitude.unitsAt (position + 1) ↔
      2 * remainder ≤ scale := by
    have side : (Magnitude.unitsAt position + Magnitude.unitsAt (position + 1) - 2 * units) * factor =
        scale - 2 * remainder := by linarith
    rw [← sub_nonneg, ← mul_nonneg_iff_of_pos_right positive, side, sub_nonneg]
    exact_mod_cast Iff.rfl
  have above : (Magnitude.unitsAt position + Magnitude.unitsAt (position + 1) : ℚ) ≤ 2 * units ↔
      scale ≤ 2 * remainder := by
    have side : (2 * units - (Magnitude.unitsAt position + Magnitude.unitsAt (position + 1))) *
        factor = 2 * remainder - scale := by linarith
    rw [← sub_nonneg, ← mul_nonneg_iff_of_pos_right positive, side, sub_nonneg]
    exact_mod_cast Iff.rfl
  constructor
  · intro small even
    refine isNearest_low ?_ (below.mpr small) fun tie =>
      even (Nat.le_antisymm small (above.mp tie.ge))
    rw [← sub_nonneg, ← mul_nonneg_iff_of_pos_right positive, low]
    exact Nat.cast_nonneg _
  · intro large even
    refine isNearest_high ?_ (above.mpr large) fun tie =>
      even (Nat.le_antisymm (below.mp tie.le) large)
    rw [← sub_nonneg, ← mul_nonneg_iff_of_pos_right positive, high, sub_nonneg]
    exact Nat.cast_le.mpr (Nat.le_of_lt inside)

end Between

/-! ### Rounding -/

/-- The exponent that rounding starts from leaves a significand of the one form. -/
theorem significand_bounds (quotient : ℕ) :
    quotient / 2 ^ (quotient.log2 - 52) < 0x20000000000000 ∧
      (quotient.log2 - 52 = 0 ∨ 0x10000000000000 ≤ quotient / 2 ^ (quotient.log2 - 52)) := by
  by_cases zero : quotient = 0
  · rw [zero, Nat.zero_div]
    exact ⟨by decide, .inl (by rw [Nat.log2_zero])⟩
  · obtain ⟨least, greatest⟩ := (Nat.log2_eq_iff zero).mp rfl
    by_cases small : quotient.log2 ≤ 52
    · have bound : 2 ^ (quotient.log2 + 1) ≤ 2 ^ 53 := Nat.pow_le_pow_right (by decide) (by omega)
      rw [Nat.sub_eq_zero_of_le small, Nat.pow_zero, Nat.div_one]
      exact ⟨Nat.lt_of_lt_of_le greatest bound, .inl rfl⟩
    · obtain ⟨exponent, length⟩ := Nat.exists_eq_add_of_lt (Nat.lt_of_not_le small)
      rw [length, show 52 + exponent + 1 - 52 = exponent + 1 by omega]
      rw [length] at least greatest
      constructor
      · refine Nat.div_lt_of_lt_mul (Nat.lt_of_lt_of_eq greatest ?_)
        rw [show 52 + exponent + 1 + 1 = exponent + 1 + 53 by omega, Nat.pow_add]
      · refine .inr ((Nat.le_div_iff_mul_le (Nat.two_pow_pos _)).mpr (Nat.le_trans ?_ least))
        rw [show 52 + exponent + 1 = 52 + (exponent + 1) by omega, Nat.pow_add 2 52]

/-- **Rounding goes to the nearest position**, a tie to the even one. -/
theorem isNearest_nearestRank (numerator : ℕ) {denominator : ℕ} (positive : 0 < denominator) :
    IsNearest (numerator / denominator) (nearestRank numerator denominator) := by
  have bounds := significand_bounds (numerator / denominator)
  unfold nearestRank
  dsimp only
  rw [Nat.pow_eq]
  generalize (numerator / denominator).log2 - 52 = exponent at bounds ⊢
  rw [Nat.div_div_eq_div_mul] at bounds
  have scaled : 0 < denominator * 2 ^ exponent := Nat.mul_pos positive (Nat.two_pow_pos _)
  have division := Nat.div_add_mod numerator (denominator * 2 ^ exponent)
  have inside := Nat.mod_lt numerator scaled
  have rounded := roundQuotient_cases numerator (denominator * 2 ^ exponent)
  generalize numerator / (denominator * 2 ^ exponent) = quotient at bounds division rounded
  generalize numerator % (denominator * 2 ^ exponent) = remainder at division inside rounded
  -- The number lies between two positions, whose numbers of units differ by the scale.
  obtain ⟨position, place⟩ : ∃ position, position = exponent * 0x10000000000000 + quotient := ⟨_, rfl⟩
  have number : (numerator / denominator : ℚ) * denominator =
      (denominator * 2 ^ exponent : ℕ) * quotient + remainder := by
    rw [div_mul_cancel₀ _ (Nat.cast_ne_zero.mpr (Nat.ne_of_gt positive)), ← division]
    push_cast
    rfl
  have low : (numerator / denominator - Magnitude.unitsAt position : ℚ) * denominator = remainder := by
    rw [place, Magnitude.unitsAt_eq (Nat.le_of_lt bounds.1) bounds.2, sub_mul, number]
    push_cast
    ring
  have high : (Magnitude.unitsAt (position + 1) - numerator / denominator : ℚ) * denominator =
      (denominator * 2 ^ exponent : ℕ) - remainder := by
    rw [place, Nat.add_assoc, Magnitude.unitsAt_eq bounds.1 (bounds.2.imp_right Nat.le_succ_of_le),
      sub_mul, number]
    push_cast
    ring
  obtain ⟨toLow, toHigh⟩ := isNearest_of_remainder (Nat.cast_pos.mpr positive) low high inside
  rcases rounded with ⟨down, small, even⟩ | ⟨up, large, even⟩
  · rw [down, ← place]
    refine toLow small fun tie => ?_
    have := even tie
    omega
  · rw [up, ← Nat.add_assoc, ← place]
    refine toHigh large fun tie => ?_
    have := even tie
    omega

end Double

namespace Decimal

theorem numerator_div_denominator (decimal : Decimal) :
    (decimal.numerator / decimal.denominator : ℚ) = decimal.value * Double.unitsInOne := by
  rw [numerator_eq, mul_div_cancel_right₀]
  exact Nat.cast_ne_zero.mpr (Nat.ne_of_gt decimal.denominator_pos)

/-- **A decimal is rounded to the nearest double.** -/
theorem exists_nearest (decimal : Decimal) (negative : Bool) :
    ∃ position, decimal.toDouble negative = .ofRank negative position ∧
      Double.IsNearest (decimal.value * Double.unitsInOne) position := by
  refine ⟨_, rfl, ?_⟩
  rw [← numerator_div_denominator]
  exact Double.isNearest_nearestRank _ decimal.denominator_pos

end Decimal

namespace DecimalText

theorem isDigit_of_ofText? {characters : String} {text : DecimalText}
    (parsed : ofText? characters = some text) :
    ∀ c ∈ text.whole ++ text.fraction, c.isDigit = true := by
  have front (characters : List Char) : ∀ c ∈ (splitDigits characters).1, c.isDigit = true :=
    List.all_eq_true.mp List.all_takeWhile
  have behind (characters : List Char) : ∀ c ∈ (splitFraction characters).1, c.isDigit = true := by
    unfold splitFraction
    split
    · exact front _
    · exact fun c member => nomatch member
  unfold ofText? at parsed
  dsimp only at parsed
  split at parsed
  · cases parsed
  · obtain ⟨exponent, -, rfl⟩ := Option.map_eq_some_iff.mp parsed
    intro c member
    exact (List.mem_append.mp member).elim (front _ c) (behind _ c)

/-- **A decimal text is read as the double nearest to its number**, also where it is cut off. -/
theorem exists_nearest {characters : String} {text : DecimalText}
    (parsed : ofText? characters = some text) :
    ∃ position, text.toDouble = .ofRank text.negative position ∧
      Double.IsNearest (text.magnitude.value * Double.unitsInOne) position := by
  rw [toDouble_eq (isDigit_of_ofText? parsed)]
  exact text.magnitude.exists_nearest text.negative

end DecimalText

end Argline
