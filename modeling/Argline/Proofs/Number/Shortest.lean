/-
**No shorter decimal reads back.**

Rounding is monotone, so what lies between a magnitude and a decimal that reads back reads back too
(`Magnitude.readsBack_of_between`). A decimal of few digits can therefore be moved onto the grid of that
many digits (`Magnitude.exists_multiple`), and there to a neighbour of the magnitude, where the search
finds it.

* `Magnitude.pointPosition_spec`: the power of ten just above a magnitude is the one that is counted out;
* `Magnitude.exists_candidate`: a grid on which some multiple reads back has a candidate, as near as any;
* `Magnitude.exists_candidate_of_seventeen`: seventeen digits suffice;
* `Decimal.length_layout_le`: a decimal is written without a digit that it does not need;
* `Magnitude.shortest_least`: no decimal with fewer digits than the written ones reads back, and of those
  with as many none is nearer.
-/

import Argline.Proofs.Number.DoubleText
import Argline.Proofs.Number.Nearest

namespace Argline

/-- A number has at most so many digits, up to zeros in front and behind. -/
def HasDigits (number : ℚ) (count : ℕ) : Prop :=
  ∃ digits : ℕ, ∃ exponent : ℤ, digits < 10 ^ count ∧ number = digits * 10 ^ exponent

theorem HasDigits.pos {number : ℚ} {count : ℕ} (few : HasDigits number count) (nonzero : number ≠ 0) :
    0 < count := by
  obtain ⟨digits, exponent, small, rfl⟩ := few
  refine Nat.pos_of_ne_zero fun none => nonzero ?_
  rw [none, Nat.pow_zero, Nat.lt_one_iff] at small
  rw [small, Nat.cast_zero, zero_mul]

/-! ### The digits that are written -/

theorem toDigits_bounds {number : ℕ} (nonzero : number ≠ 0) :
    10 ^ ((Nat.toDigits 10 number).length - 1) ≤ number ∧
      number < 10 ^ (Nat.toDigits 10 number).length := by
  have nonempty : 0 < (Nat.toDigits 10 number).length :=
    List.length_pos_iff.mpr (isDigits_toDigits number).nonempty
  constructor
  · by_cases one : (Nat.toDigits 10 number).length - 1 = 0
    · rw [one, Nat.pow_zero]
      exact Nat.one_le_iff_ne_zero.mpr nonzero
    · refine Nat.le_of_not_lt fun less => ?_
      have := (Nat.length_toDigits_le_iff (by decide) (Nat.pos_of_ne_zero one)).mpr less
      omega
  · exact (Nat.length_toDigits_le_iff (by decide) nonempty).mp (Nat.le_refl _)

/-- Without its final zeros a digit text does not end in a zero. -/
theorem not_dvd_dropFinalZeros {digits : List Char} (isDigit : ∀ c ∈ digits, c.isDigit = true)
    (nonempty : dropFinalZeros digits ≠ []) :
    ¬ 10 ∣ Nat.ofDigitChars 10 (dropFinalZeros digits) 0 := by
  obtain ⟨count, split⟩ := dropFinalZeros_append digits
  have last : ∀ c ∈ (dropFinalZeros digits).getLast?, c ≠ '0' := by
    intro c final
    unfold dropFinalZeros at final
    rw [List.getLast?_reverse] at final
    simpa using eq_false_of_head?_dropWhile c final
  generalize dropFinalZeros digits = kept at split nonempty last ⊢
  obtain ⟨front, c, rfl⟩ := (List.eq_nil_or_concat kept).resolve_left nonempty
  have digit := Char.isDigit_iff_toNat.mp (isDigit c (by simp [split]))
  have nonzero : c.toNat ≠ '0'.toNat := by
    intro same
    exact last c (by simp) (Char.toNat_inj.mp same)
  have nine : '9'.toNat = '0'.toNat + 9 := by decide
  rw [List.concat_eq_append, Nat.ofDigitChars_append, Nat.ofDigitChars_cons, Nat.ofDigitChars_nil]
  omega

/-- Without its final zeros a number is as long as the digits that are left. -/
theorem Decimal.le_ofDigitChars_layout (decimal : Decimal) (nonzero : decimal.digits ≠ 0) :
    10 ^ (decimal.layout.1.length - 1) ≤ Nat.ofDigitChars 10 decimal.layout.1 0 := by
  obtain ⟨ok, -⟩ := Decimal.layout_spec nonzero
  have nonempty := List.length_pos_iff.mpr ok.nonempty
  have least := (toDigits_bounds nonzero).1
  obtain ⟨count, split⟩ := dropFinalZeros_append (Nat.toDigits 10 decimal.digits)
  have number := Nat.ofDigitChars_ten_toDigits (n := decimal.digits)
  unfold Decimal.layout at nonempty ⊢
  dsimp only at nonempty ⊢
  generalize dropFinalZeros (Nat.toDigits 10 decimal.digits) = kept at nonempty split ⊢
  rw [split, ofDigitChars_append_zeros] at number
  rw [split, List.length_append, List.length_replicate, Nat.sub_add_comm nonempty, Nat.pow_add, ← number,
    Nat.mul_comm] at least
  exact Nat.le_of_mul_le_mul_left least (Nat.pow_pos (by decide))

/-- **A decimal is written with no more digits than its number has.** -/
theorem Decimal.length_layout_le {decimal : Decimal} (nonzero : decimal.digits ≠ 0) {count : ℕ}
    (few : HasDigits decimal.value count) : decimal.layout.1.length ≤ count := by
  obtain ⟨digits, exponent, small, value⟩ := few
  obtain ⟨ok, number⟩ := Decimal.layout_spec nonzero
  have odd : ¬ 10 ∣ Nat.ofDigitChars 10 decimal.layout.1 0 :=
    not_dvd_dropFinalZeros (isDigits_toDigits decimal.digits).isDigit ok.nonempty
  have least := decimal.le_ofDigitChars_layout nonzero
  have power (exponent : ℤ) : (10 : ℚ) ^ exponent ≠ 0 := zpow_ne_zero _ (by norm_num)
  rw [value] at number
  generalize Nat.ofDigitChars 10 decimal.layout.1 0 = written at number odd least
  generalize decimal.layout.2 - decimal.layout.1.length = place at number
  by_cases coarse : exponent ≤ place
  · obtain ⟨places, rfl⟩ := Int.exists_add_of_le coarse
    have whole : written * 10 ^ places = digits := by
      rw [zpow_add₀ (by norm_num), zpow_natCast, mul_comm ((10 : ℚ) ^ exponent), ← mul_assoc] at number
      exact_mod_cast mul_right_cancel₀ (power exponent) number
    have bound : 10 ^ (decimal.layout.1.length - 1) < 10 ^ count :=
      calc 10 ^ (decimal.layout.1.length - 1) ≤ written := least
        _ ≤ written * 10 ^ places := Nat.le_mul_of_pos_right _ (Nat.pow_pos (by decide))
        _ < 10 ^ count := whole ▸ small
    have := (Nat.pow_lt_pow_iff_right (by decide)).mp bound
    omega
  · obtain ⟨places, rfl⟩ := Int.exists_add_of_le (Int.not_le.mp coarse)
    refine absurd ?_ odd
    have whole : written = digits * 10 ^ (places + 1) := by
      rw [show place + 1 + places = place + (places + 1 : ℕ) by omega, zpow_add₀ (by norm_num),
        zpow_natCast, mul_comm ((10 : ℚ) ^ place), ← mul_assoc] at number
      exact_mod_cast mul_right_cancel₀ (power place) number
    rw [whole, Nat.pow_succ']
    exact Nat.dvd_mul_left_of_dvd (Nat.dvd_mul_right 10 _) _

theorem Double.unitsInOne_pos : (0 : ℚ) < Double.unitsInOne := by
  unfold Double.unitsInOne
  generalize 1074 = places
  exact Nat.cast_pos.mpr (Nat.two_pow_pos places)

namespace Magnitude

/-- The number a magnitude is. -/
def number (magnitude : Magnitude) : ℚ := magnitude.units / Double.unitsInOne

theorem number_mul (magnitude : Magnitude) :
    magnitude.number * Double.unitsInOne = magnitude.units :=
  div_mul_cancel₀ _ (ne_of_gt Double.unitsInOne_pos)

variable {magnitude : Magnitude}

/-! ### Reading back -/

theorem isNearest_rank (magnitude : Magnitude) :
    Double.IsNearest (magnitude.number * Double.unitsInOne) magnitude.rank := by
  have nearest := Double.isNearest_nearestRank magnitude.units Nat.one_pos
  rwa [Double.nearestRank_units, Nat.cast_one, div_one, ← number_mul] at nearest

theorem readsBack_iff (magnitude : Magnitude) (decimal : Decimal) :
    magnitude.readsBack decimal = true ↔
      Double.IsNearest (decimal.value * Double.unitsInOne) magnitude.rank := by
  obtain ⟨position, double, nearest⟩ := decimal.exists_nearest false
  unfold readsBack
  rw [decide_eq_true_eq, double, Double.ofRank_eq_finite_iff]
  constructor
  · intro same
    exact same ▸ nearest
  · intro other
    exact nearest.unique other

/-- **What lies between a magnitude and a decimal that reads back reads back too.** -/
theorem readsBack_of_between {near far : Decimal} (back : magnitude.readsBack far = true)
    (between : (magnitude.number ≤ near.value ∧ near.value ≤ far.value) ∨
      (far.value ≤ near.value ∧ near.value ≤ magnitude.number)) :
    magnitude.readsBack near = true := by
  rw [readsBack_iff] at back ⊢
  obtain ⟨position, -, nearest⟩ := near.exists_nearest false
  have scaled {low high : ℚ} (le : low ≤ high) :
      low * Double.unitsInOne ≤ high * Double.unitsInOne :=
    mul_le_mul_of_nonneg_right le Double.unitsInOne_pos.le
  have same : position = magnitude.rank := by
    rcases between with ⟨above, below⟩ | ⟨above, below⟩
    · exact Nat.le_antisymm (nearest.mono back (scaled below))
        (magnitude.isNearest_rank.mono nearest (scaled above))
    · exact Nat.le_antisymm (nearest.mono magnitude.isNearest_rank (scaled below))
        (back.mono nearest (scaled above))
  exact same ▸ nearest

theorem readsBack_congr {decimal other : Decimal} (same : decimal.value = other.value) :
    magnitude.readsBack decimal = magnitude.readsBack other := by
  unfold readsBack
  rw [Decimal.toDouble_congr same]

theorem value_ne_zero_of_readsBack (nonzero : magnitude.units ≠ 0) {decimal : Decimal}
    (back : magnitude.readsBack decimal = true) : decimal.value ≠ 0 :=
  mul_ne_zero (Nat.cast_ne_zero.mpr (digits_ne_zero_of_readsBack nonzero back))
    (zpow_ne_zero _ (by norm_num))

/-! ### The place of the point -/

/-- How the place is found, with enough places that nothing is rounded to zero. -/
theorem exists_places (magnitude : Magnitude) : ∃ places : ℕ,
    Double.unitsInOne ≤ 10 ^ places ∧ magnitude.pointPosition =
      (Nat.toDigits 10 (magnitude.units * 10 ^ places / Double.unitsInOne)).length - places := by
  obtain ⟨few, within, units⟩ := DecimalText.exists_powers.1
  have enough {places : ℕ} (more : few ≤ places) : Double.unitsInOne ≤ 10 ^ places := by
    have := Nat.pow_le_pow_right (show 0 < 10 by decide) more
    omega
  refine ⟨330, enough within, ?_⟩
  have places : (330 : ℤ) = (330 : ℕ) := rfl
  unfold pointPosition
  rw [places]
  generalize (330 : ℕ) = places
  rw [Nat.pow_eq]

/-- **The power of ten just above a magnitude** is found by counting digits. -/
theorem pointPosition_spec (nonzero : magnitude.units ≠ 0) :
    (10 : ℚ) ^ (magnitude.pointPosition - 1) ≤ magnitude.number ∧
      magnitude.number < 10 ^ magnitude.pointPosition := by
  obtain ⟨places, enough, position⟩ := magnitude.exists_places
  rw [position]
  have one := Double.unitsInOne_pos
  have whole : magnitude.units * 10 ^ places / Double.unitsInOne ≠ 0 := by
    refine Nat.ne_of_gt (Nat.div_pos ?_ (Nat.cast_pos.mp one))
    exact Nat.le_trans enough (Nat.le_mul_of_pos_left _ (Nat.pos_of_ne_zero nonzero))
  obtain ⟨least, greatest⟩ := toDigits_bounds whole
  have nonempty : 0 < (Nat.toDigits 10 (magnitude.units * 10 ^ places / Double.unitsInOne)).length :=
    List.length_pos_iff.mpr (isDigits_toDigits _).nonempty
  generalize (Nat.toDigits 10 (magnitude.units * 10 ^ places / Double.unitsInOne)).length = count
    at least greatest nonempty ⊢
  have shift (exponent : ℤ) : (10 : ℚ) ^ (exponent - places) * 10 ^ places = 10 ^ exponent := by
    rw [← zpow_natCast, ← zpow_add₀ (by norm_num), Int.sub_add_cancel]
  have scale : (0 : ℚ) < 10 ^ places * Double.unitsInOne := mul_pos (by positivity) one
  have number : magnitude.number * (10 ^ places * Double.unitsInOne) = magnitude.units * 10 ^ places := by
    rw [← number_mul]
    ring
  rw [Nat.le_div_iff_mul_le (Nat.cast_pos.mp one)] at least
  rw [Nat.div_lt_iff_lt_mul (Nat.cast_pos.mp one)] at greatest
  constructor
  · refine le_of_mul_le_mul_right ?_ scale
    rw [number, ← mul_assoc, show (count : ℤ) - places - 1 = (count - 1 : ℕ) - places by omega, shift,
      zpow_natCast]
    exact_mod_cast least
  · refine lt_of_mul_lt_mul_right ?_ scale.le
    rw [number, ← mul_assoc, shift, zpow_natCast]
    exact_mod_cast greatest

/-! ### Grids -/

/-- The neighbours of a magnitude on a grid lie on its two sides, and the first one is nearer. -/
theorem neighbours_spec (magnitude : Magnitude) (exponent : ℤ) :
    ∃ below : ℕ, below * 10 ^ exponent ≤ magnitude.number ∧
      magnitude.number < (below + 1) * 10 ^ exponent ∧
      ((magnitude.neighbours exponent = (⟨below, exponent⟩, ⟨below + 1, exponent⟩) ∧
          2 * magnitude.number ≤ (2 * below + 1) * 10 ^ exponent) ∨
        (magnitude.neighbours exponent = (⟨below + 1, exponent⟩, ⟨below, exponent⟩) ∧
          (2 * below + 1) * 10 ^ exponent ≤ 2 * magnitude.number)) := by
  have step : (0 : ℚ) < 10 ^ exponent := zpow_pos (by norm_num) _
  have fraction : magnitude.number * (Double.unitsInOne * 10 ^ exponent.toNat : ℕ) =
      (magnitude.units * 10 ^ (-exponent).toNat : ℕ) * 10 ^ exponent := by
    push_cast
    rw [Decimal.pow_toNat, ← number_mul]
    ring
  have scaled : 0 < Double.unitsInOne * 10 ^ exponent.toNat :=
    Nat.mul_pos (Nat.cast_pos.mp Double.unitsInOne_pos) (Nat.pow_pos (by decide))
  unfold neighbours
  simp only [Nat.pow_eq]
  have rounded := Double.roundQuotient_cases (magnitude.units * 10 ^ (-exponent).toNat)
    (Double.unitsInOne * 10 ^ exponent.toNat)
  generalize magnitude.units * 10 ^ (-exponent).toNat = numerator at fraction rounded ⊢
  generalize Double.unitsInOne * 10 ^ exponent.toNat = denominator at fraction scaled rounded ⊢
  have division := Nat.div_add_mod numerator denominator
  have inside := Nat.mod_lt numerator scaled
  generalize Double.roundQuotient numerator denominator = quotient at rounded ⊢
  generalize numerator / denominator = below at rounded division ⊢
  generalize numerator % denominator = remainder at rounded division inside
  have positive : (0 : ℚ) < denominator := Nat.cast_pos.mpr scaled
  have number : magnitude.number * denominator = (denominator * below + remainder) * 10 ^ exponent := by
    rw [fraction, ← division]
    push_cast
    rfl
  have within : (remainder : ℚ) < denominator := Nat.cast_lt.mpr inside
  refine ⟨below, ?_, ?_, ?_⟩
  · refine le_of_mul_le_mul_right ?_ positive
    rw [number]
    have : (0 : ℚ) ≤ remainder * 10 ^ exponent := mul_nonneg (Nat.cast_nonneg _) step.le
    linarith
  · refine lt_of_mul_lt_mul_right ?_ positive.le
    rw [number]
    have := mul_lt_mul_of_pos_right within step
    linarith
  · rcases rounded with ⟨rfl, small, -⟩ | ⟨rfl, large, -⟩
    · refine .inl ⟨if_pos rfl, le_of_mul_le_mul_right ?_ positive⟩
      have : (2 * remainder : ℚ) ≤ denominator := by exact_mod_cast small
      have := mul_le_mul_of_nonneg_right this step.le
      linarith
    · refine .inr ⟨if_neg (Nat.succ_ne_self _), le_of_mul_le_mul_right ?_ positive⟩
      have : (denominator : ℚ) ≤ 2 * remainder := by exact_mod_cast large
      have := mul_le_mul_of_nonneg_right this step.le
      linarith

theorem value_neighbour (below : ℕ) (exponent : ℤ) :
    (⟨below, exponent⟩ : Decimal).value = below * 10 ^ exponent ∧
      (⟨below + 1, exponent⟩ : Decimal).value = (below + 1) * 10 ^ exponent := by
  unfold Decimal.value
  push_cast
  exact ⟨rfl, rfl⟩

/-- The candidate of a grid is a neighbour, and as near as any that reads back. -/
theorem exists_candidate_of_neighbour {near far side : Decimal} {exponent : ℤ}
    (neighbours : magnitude.neighbours exponent = (near, far))
    (nearer : |near.value - magnitude.number| ≤ |far.value - magnitude.number|)
    (beside : side = near ∨ side = far) (back : magnitude.readsBack side = true) :
    ∃ decimal, magnitude.candidate? exponent = some decimal ∧
      |decimal.value - magnitude.number| ≤ |side.value - magnitude.number| := by
  unfold candidate?
  rw [neighbours]
  dsimp only
  by_cases nearBack : magnitude.readsBack near = true
  · refine ⟨near, if_pos nearBack, ?_⟩
    rcases beside with rfl | rfl
    · exact le_refl _
    · exact nearer
  · rcases beside with rfl | rfl
    · exact absurd back nearBack
    · exact ⟨side, by rw [if_neg nearBack, if_pos back], le_refl _⟩

/-- A multiple on one side of a magnitude has the neighbour on this side in front of it. -/
theorem exists_neighbour_between {digits below : ℕ} {exponent : ℤ}
    (low : below * 10 ^ exponent ≤ magnitude.number)
    (high : magnitude.number < (below + 1) * 10 ^ exponent)
    (back : magnitude.readsBack ⟨digits, exponent⟩ = true) :
    ∃ side : Decimal, (side = ⟨below, exponent⟩ ∨ side = ⟨below + 1, exponent⟩) ∧
      magnitude.readsBack side = true ∧
        |side.value - magnitude.number| ≤
          |(⟨digits, exponent⟩ : Decimal).value - magnitude.number| := by
  obtain ⟨lowValue, highValue⟩ := value_neighbour below exponent
  have step : (0 : ℚ) < 10 ^ exponent := zpow_pos (by norm_num) _
  have value : (⟨digits, exponent⟩ : Decimal).value = digits * 10 ^ exponent := rfl
  by_cases front : digits ≤ below
  · have le : (digits : ℚ) * 10 ^ exponent ≤ below * 10 ^ exponent :=
      mul_le_mul_of_nonneg_right (Nat.cast_le.mpr front) step.le
    refine ⟨⟨below, exponent⟩, .inl rfl, readsBack_of_between back (.inr ?_), ?_⟩
    · rw [lowValue, value]
      exact ⟨le, low⟩
    · rw [lowValue, value, abs_of_nonpos (by linarith), abs_of_nonpos (by linarith)]
      linarith
  · have le : ((below : ℚ) + 1) * 10 ^ exponent ≤ digits * 10 ^ exponent :=
      mul_le_mul_of_nonneg_right (by exact_mod_cast Nat.not_le.mp front) step.le
    refine ⟨⟨below + 1, exponent⟩, .inr rfl, readsBack_of_between back (.inl ?_), ?_⟩
    · rw [highValue, value]
      exact ⟨high.le, le⟩
    · rw [highValue, value, abs_of_nonneg (by linarith), abs_of_nonneg (by linarith)]
      linarith

/-- **A grid on which some multiple reads back has a candidate**, and the candidate is as near. -/
theorem exists_candidate {digits : ℕ} {exponent : ℤ}
    (back : magnitude.readsBack ⟨digits, exponent⟩ = true) :
    ∃ decimal, magnitude.candidate? exponent = some decimal ∧
      |decimal.value - magnitude.number| ≤
        |(⟨digits, exponent⟩ : Decimal).value - magnitude.number| := by
  obtain ⟨below, low, high, order⟩ := magnitude.neighbours_spec exponent
  obtain ⟨lowValue, highValue⟩ := value_neighbour below exponent
  obtain ⟨side, beside, sideBack, closer⟩ := exists_neighbour_between low high back
  have lowDistance : |(⟨below, exponent⟩ : Decimal).value - magnitude.number| =
      magnitude.number - below * 10 ^ exponent := by
    rw [lowValue, abs_of_nonpos (by linarith), neg_sub]
  have highDistance : |(⟨below + 1, exponent⟩ : Decimal).value - magnitude.number| =
      (below + 1) * 10 ^ exponent - magnitude.number := by
    rw [highValue, abs_of_nonneg (by linarith)]
  obtain ⟨decimal, found, near⟩ : ∃ decimal, magnitude.candidate? exponent = some decimal ∧
      |decimal.value - magnitude.number| ≤ |side.value - magnitude.number| := by
    rcases order with ⟨neighbours, half⟩ | ⟨neighbours, half⟩
    · exact exists_candidate_of_neighbour neighbours (by linarith) beside sideBack
    · exact exists_candidate_of_neighbour neighbours (by linarith) beside.symm sideBack
  exact ⟨decimal, found, le_trans near closer⟩

/-- A candidate has no more digits than its grid. -/
theorem hasDigits_of_candidate? (nonzero : magnitude.units ≠ 0) {count : ℕ} (positive : 0 < count)
    {decimal : Decimal}
    (found : magnitude.candidate? (magnitude.pointPosition - count) = some decimal) :
    HasDigits decimal.value count := by
  obtain ⟨below, low, -, order⟩ := magnitude.neighbours_spec (magnitude.pointPosition - count)
  obtain ⟨-, bound⟩ := pointPosition_spec nonzero
  generalize magnitude.pointPosition = position at *
  have top : (10 : ℚ) ^ position = 10 ^ count * 10 ^ (position - count) := by
    rw [← zpow_natCast, ← zpow_add₀ (by norm_num), add_sub_cancel]
  have small : below < 10 ^ count := by
    have less : (below : ℚ) * 10 ^ (position - count) < 10 ^ count * 10 ^ (position - count) := by
      rw [← top]
      exact lt_of_le_of_lt low bound
    exact_mod_cast lt_of_mul_lt_mul_right less (zpow_pos (by norm_num) _).le
  have neighbour : decimal = ⟨below, position - count⟩ ∨ decimal = ⟨below + 1, position - count⟩ := by
    have neighbour := (candidate?_spec found).2
    rcases order with ⟨neighbours, -⟩ | ⟨neighbours, -⟩
    · rwa [neighbours] at neighbour
    · rw [neighbours] at neighbour
      exact neighbour.symm
  rcases neighbour with rfl | rfl
  · exact ⟨below, _, small, rfl⟩
  · by_cases full : below + 1 = 10 ^ count
    · refine ⟨1, position, Nat.one_lt_pow (by omega) (by decide), ?_⟩
      unfold Decimal.value
      rw [full, top]
      push_cast
      ring
    · exact ⟨below + 1, _, by omega, rfl⟩

/-! ### Seventeen digits -/

/-- The position above a magnitude, in parts of the magnitude. -/
theorem units_lt_gap_above (magnitude : Magnitude) :
    magnitude.units < (unitsAt (magnitude.rank + 1) - magnitude.units) * 10 ^ 16 := by
  have scale := Nat.two_pow_pos magnitude.exponent
  have small := magnitude.significand_lt
  unfold rank units
  rw [Nat.add_assoc, unitsAt_eq small (magnitude.normal.imp_right Nat.le_succ_of_le), Nat.pow_eq,
    Nat.succ_mul, Nat.add_sub_cancel_left, Nat.mul_comm]
  exact Nat.mul_lt_mul_of_pos_left (by omega) scale

/-- The position below a magnitude. Under the least significand the gap is half as wide. -/
theorem units_lt_gap_below (nonzero : magnitude.units ≠ 0) :
    magnitude.units < (magnitude.units - unitsAt (magnitude.rank - 1)) * 10 ^ 16 := by
  obtain ⟨significand, exponent, significand_lt, exponent_le, normal⟩ := magnitude
  have scale := Nat.two_pow_pos exponent
  unfold units at nonzero ⊢
  unfold rank
  dsimp only at *
  rw [Nat.pow_eq] at *
  have positive : significand ≠ 0 := fun zero => nonzero (by rw [zero, Nat.zero_mul])
  by_cases inner : exponent = 0 ∨ 0x10000000000000 < significand
  · rw [Nat.add_sub_assoc (by omega), unitsAt_eq (by omega) (inner.imp_right Nat.le_sub_one_of_lt),
      ← Nat.mul_sub_right_distrib, Nat.sub_sub_self (by omega), Nat.one_mul, Nat.mul_comm]
    exact Nat.mul_lt_mul_of_pos_left (by omega) scale
  · obtain ⟨below, rfl⟩ := Nat.exists_eq_succ_of_ne_zero (fun zero => inner (.inl zero))
    have least : significand = 0x10000000000000 := by omega
    have place : (below + 1) * 0x10000000000000 + significand - 1 =
        below * 0x10000000000000 + 0x1fffffffffffff := by omega
    have double : significand * 2 ^ (below + 1) = 0x20000000000000 * 2 ^ below := by
      rw [least, Nat.pow_succ']
      omega
    rw [place, unitsAt_eq (by decide) (.inr (by decide)), double, ← Nat.mul_sub_right_distrib,
      show 0x20000000000000 - 0x1fffffffffffff = 1 by decide, Nat.one_mul, Nat.mul_comm]
    exact Nat.mul_lt_mul_of_pos_left (by decide) (Nat.two_pow_pos below)

/-- A number within half of a `10^16`th of a magnitude is nearest to it. -/
theorem isNearest_of_close (nonzero : magnitude.units ≠ 0) {units : ℚ}
    (close : |units - magnitude.units| * (2 * 10 ^ 16) ≤ magnitude.units) :
    Double.IsNearest units magnitude.rank := by
  by_cases above : (magnitude.units : ℚ) ≤ units
  · have less := unitsAt_strictMono (Nat.lt_succ_self magnitude.rank)
    rw [unitsAt_rank] at less
    have gap : (magnitude.units : ℚ) < (unitsAt (magnitude.rank + 1) - magnitude.units) * 10 ^ 16 := by
      rw [← Nat.cast_sub (Nat.le_of_lt less)]
      exact_mod_cast magnitude.units_lt_gap_above
    rw [abs_of_nonneg (sub_nonneg.mpr above)] at close
    refine Double.isNearest_low ?_ ?_ fun tie => ?_
    · rwa [unitsAt_rank]
    · rw [unitsAt_rank]
      linarith
    · rw [unitsAt_rank] at tie
      linarith
  · obtain ⟨position, place⟩ : ∃ position, magnitude.rank = position + 1 :=
      Nat.exists_eq_succ_of_ne_zero fun zero => nonzero (rank_eq_zero zero)
    have units_eq : unitsAt (position + 1) = magnitude.units := place ▸ magnitude.unitsAt_rank
    have less := unitsAt_strictMono (Nat.lt_succ_self position)
    rw [Nat.succ_eq_add_one, units_eq] at less
    have gap : (magnitude.units : ℚ) < (magnitude.units - unitsAt position) * 10 ^ 16 := by
      have below := units_lt_gap_below nonzero
      rw [place, Nat.add_sub_cancel] at below
      rw [← Nat.cast_sub (Nat.le_of_lt less)]
      exact_mod_cast below
    rw [abs_of_neg (sub_neg.mpr (not_le.mp above))] at close
    rw [place]
    refine Double.isNearest_high ?_ ?_ fun tie => ?_
    · rw [units_eq]
      exact (not_le.mp above).le
    · rw [units_eq]
      linarith
    · rw [units_eq] at tie
      linarith

/-- **Seventeen digits suffice.** -/
theorem exists_candidate_of_seventeen (nonzero : magnitude.units ≠ 0) :
    ∃ decimal, magnitude.candidate? (magnitude.pointPosition - (17 : ℕ)) = some decimal := by
  obtain ⟨bound, -⟩ := pointPosition_spec nonzero
  have coarse : (10 : ℚ) ^ (magnitude.pointPosition - (17 : ℕ)) * 10 ^ 16 ≤ magnitude.number := by
    generalize magnitude.pointPosition = position at bound ⊢
    refine le_trans (le_of_eq ?_) bound
    rw [← zpow_natCast, ← zpow_add₀ (by norm_num),
      show position - (17 : ℕ) + (16 : ℕ) = position - 1 by omega]
  generalize magnitude.pointPosition - (17 : ℕ) = exponent at coarse ⊢
  obtain ⟨below, low, high, order⟩ := magnitude.neighbours_spec exponent
  obtain ⟨lowValue, highValue⟩ := value_neighbour below exponent
  -- The nearer neighbour is at most half a step away, and a step is at most a `10^16`th.
  obtain ⟨digits, close⟩ : ∃ digits : ℕ,
      |(⟨digits, exponent⟩ : Decimal).value - magnitude.number| * (2 * 10 ^ 16) ≤
        magnitude.number := by
    rcases order with ⟨-, half⟩ | ⟨-, half⟩
    · refine ⟨below, ?_⟩
      rw [lowValue, abs_of_nonpos (by linarith)]
      linarith
    · refine ⟨below + 1, ?_⟩
      rw [highValue, abs_of_nonneg (by linarith)]
      linarith
  have back : magnitude.readsBack ⟨digits, exponent⟩ = true := by
    have scaled := mul_le_mul_of_nonneg_right close Double.unitsInOne_pos.le
    rw [readsBack_iff]
    refine isNearest_of_close nonzero (le_of_eq_of_le ?_ (scaled.trans_eq magnitude.number_mul))
    rw [← number_mul, ← sub_mul, abs_mul, abs_of_pos Double.unitsInOne_pos, mul_right_comm]
  obtain ⟨decimal, found, -⟩ := exists_candidate back
  exact ⟨decimal, found⟩

/-! ### The search -/

/-- **A decimal of few digits that reads back can be moved onto the grid of that many digits**, and is no
farther from the magnitude there. -/
theorem exists_multiple (nonzero : magnitude.units ≠ 0) {decimal : Decimal}
    (back : magnitude.readsBack decimal = true) {count : ℕ} (few : HasDigits decimal.value count) :
    ∃ digits : ℕ, magnitude.readsBack ⟨digits, magnitude.pointPosition - count⟩ = true ∧
      |(⟨digits, magnitude.pointPosition - count⟩ : Decimal).value - magnitude.number| ≤
        |decimal.value - magnitude.number| := by
  have positive := few.pos (value_ne_zero_of_readsBack nonzero back)
  obtain ⟨digits, exponent, small, value⟩ := few
  obtain ⟨bound, -⟩ := pointPosition_spec nonzero
  generalize magnitude.pointPosition = position at bound ⊢
  by_cases onGrid : position - count ≤ exponent
  · obtain ⟨places, shift⟩ : ∃ places : ℕ, exponent = places + (position - count) :=
      ⟨(exponent - (position - count)).toNat, by omega⟩
    have same : (⟨digits * 10 ^ places, position - count⟩ : Decimal).value = decimal.value := by
      rw [value, shift, zpow_add₀ (by norm_num), zpow_natCast]
      unfold Decimal.value
      push_cast
      ring
    refine ⟨digits * 10 ^ places, ?_, ?_⟩
    · rw [readsBack_congr same]
      exact back
    · rw [same]
  · -- The decimal is below the first power of ten under the magnitude, which lies between the two.
    have first : (⟨10 ^ (count - 1), position - count⟩ : Decimal).value = 10 ^ (position - 1) := by
      unfold Decimal.value
      push_cast
      rw [← zpow_natCast, ← zpow_add₀ (by norm_num),
        show ((count - 1 : ℕ) : ℤ) + (position - count) = position - 1 by omega]
    have below : decimal.value ≤ 10 ^ (position - 1) :=
      calc decimal.value = digits * 10 ^ exponent := value
        _ ≤ (10 ^ count : ℕ) * 10 ^ exponent :=
          mul_le_mul_of_nonneg_right (Nat.cast_le.mpr small.le) (zpow_pos (by norm_num) _).le
        _ = 10 ^ (count + exponent) := by
          push_cast
          rw [zpow_add₀ (by norm_num), zpow_natCast]
        _ ≤ 10 ^ (position - 1) := zpow_le_zpow_right₀ (by norm_num) (by omega)
    refine ⟨10 ^ (count - 1), readsBack_of_between back (.inr ?_), ?_⟩
    · rw [first]
      exact ⟨below, bound⟩
    · rw [first, abs_of_nonpos (by linarith), abs_of_nonpos (by linarith)]
      linarith

/-- A search finds the first index that has something. -/
theorem findSome?_range {α : Type} {f : ℕ → Option α} {bound first : ℕ} {a : α} (inside : first < bound)
    (found : f first = some a) (before : ∀ index < first, f index = none) :
    (List.range bound).findSome? f = some a := by
  obtain ⟨more, rfl⟩ := Nat.exists_eq_add_of_lt inside
  have skipped : (List.range first).findSome? f = none :=
    List.findSome?_eq_none_iff.mpr fun index member => before index (List.mem_range.mp member)
  rw [Nat.add_assoc, List.range_add, List.findSome?_append, skipped, Option.none_or,
    List.range_succ_eq_map, List.map_cons, List.findSome?_cons, Nat.add_zero, found]

/-- The shortest decimal is the candidate of the coarsest grid that has one. -/
theorem exists_count (nonzero : magnitude.units ≠ 0) :
    ∃ count : ℕ, 0 < count ∧ count ≤ 17 ∧
      magnitude.candidate? (magnitude.pointPosition - count) = some magnitude.shortest ∧
      ∀ fewer : ℕ, 0 < fewer → fewer < count →
        magnitude.candidate? (magnitude.pointPosition - fewer) = none := by
  classical
  have reached : ∃ index, ∃ decimal,
      magnitude.candidate? (magnitude.pointPosition - (index + 1 : ℕ)) = some decimal :=
    ⟨16, exists_candidate_of_seventeen nonzero⟩
  obtain ⟨first, ⟨decimal, found⟩, inside, before⟩ : ∃ first, (∃ decimal,
      magnitude.candidate? (magnitude.pointPosition - (first + 1 : ℕ)) = some decimal) ∧ first < 17 ∧
        ∀ index < first, magnitude.candidate? (magnitude.pointPosition - (index + 1 : ℕ)) = none :=
    ⟨Nat.find reached, Nat.find_spec reached,
      Nat.lt_succ_of_le (Nat.find_min' reached (exists_candidate_of_seventeen nonzero)),
      fun index less => Option.eq_none_iff_forall_ne_some.mpr fun decimal found =>
        Nat.find_min reached less ⟨decimal, found⟩⟩
  have search : ((List.range 17).findSome? fun index =>
      magnitude.candidate? (magnitude.pointPosition - (index + 1 : ℕ))) = some decimal :=
    findSome?_range inside found before
  have shortest : magnitude.shortest = decimal := by
    unfold Magnitude.shortest
    dsimp only
    rw [search, Option.getD_some]
  refine ⟨first + 1, Nat.succ_pos _, inside, ?_, fun fewer positive less => ?_⟩
  · rw [shortest]
    exact found
  · obtain ⟨index, rfl⟩ := Nat.exists_eq_succ_of_ne_zero (Nat.ne_of_gt positive)
    exact before index (Nat.lt_of_succ_lt_succ less)

/-- **No decimal with fewer digits than the written ones reads back**, there are at most seventeen of them,
and of the decimals with as many none is nearer. -/
theorem shortest_least (nonzero : magnitude.units ≠ 0) :
    magnitude.shortest.layout.1.length ≤ 17 ∧
      ∀ decimal, magnitude.readsBack decimal = true → ∀ digits, HasDigits decimal.value digits →
        magnitude.shortest.layout.1.length ≤ digits ∧
          (digits = magnitude.shortest.layout.1.length →
            |magnitude.shortest.value - magnitude.number| ≤ |decimal.value - magnitude.number|) := by
  obtain ⟨count, positive, atMost, found, coarsest⟩ := exists_count nonzero
  have written : magnitude.shortest.layout.1.length ≤ count :=
    Decimal.length_layout_le (digits_ne_zero_of_readsBack nonzero magnitude.readsBack_shortest)
      (hasDigits_of_candidate? nonzero positive found)
  refine ⟨Nat.le_trans written atMost, fun decimal back digits few => ?_⟩
  obtain ⟨multiple, multipleBack, closer⟩ := exists_multiple nonzero back few
  obtain ⟨candidate, found', near⟩ := exists_candidate multipleBack
  have enough : count ≤ digits := by
    by_contra fewer
    have missing := coarsest digits (few.pos (value_ne_zero_of_readsBack nonzero back))
      (Nat.not_le.mp fewer)
    rw [found'] at missing
    cases missing
  refine ⟨Nat.le_trans written enough, fun same => ?_⟩
  obtain rfl : digits = count := Nat.le_antisymm (same ▸ written) enough
  rw [found] at found'
  rw [Option.some.inj found']
  exact le_trans near closer

end Magnitude

end Argline
