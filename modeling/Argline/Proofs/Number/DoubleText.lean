/-
**The text of a double is read back as it.**

* `DecimalText.spells_positional`, `DecimalText.spells_scientific`: both layouts of digits are decimal
  texts, of the number that the digits and the place of the point stand for;
* `Magnitude.toDouble_shortest`: the decimal a magnitude is written by has the magnitude as its double;
* `Double.ofBits_toBits`, `Double.toBits_ofBits`: a double is its bits, but that there are many patterns
  which are no number;
* `Double.text_reads_back`: an integer, a decimal and a name are all read back, a zero with its sign.
-/

import Argline.Proofs.Number.DecimalText

namespace Argline

/-! ### Zeros -/

theorem isDigit_zeros (count : Nat) : ∀ c ∈ List.replicate count '0', c.isDigit = true := by
  intro c member
  rw [List.eq_of_mem_replicate member]
  rfl

theorem ofDigitChars_zeros_append (count : Nat) (digits : List Char) :
    Nat.ofDigitChars 10 (List.replicate count '0' ++ digits) 0 = Nat.ofDigitChars 10 digits 0 := by
  rw [Nat.ofDigitChars_append, Nat.ofDigitChars_replicate_zero, Nat.mul_zero]

theorem ofDigitChars_append_zeros (digits : List Char) (count : Nat) :
    Nat.ofDigitChars 10 (digits ++ List.replicate count '0') 0 =
      10 ^ count * Nat.ofDigitChars 10 digits 0 := by
  rw [Nat.ofDigitChars_append, Nat.ofDigitChars_replicate_zero]

theorem dropFinalZeros_append (digits : List Char) :
    ∃ count, digits = dropFinalZeros digits ++ List.replicate count '0' := by
  refine ⟨(digits.reverse.takeWhile (· == '0')).length, ?_⟩
  have zeros : digits.reverse.takeWhile (· == '0') =
      List.replicate (digits.reverse.takeWhile (· == '0')).length '0' := by
    refine List.eq_replicate_iff.mpr ⟨rfl, fun c member => ?_⟩
    exact eq_of_beq (List.all_eq_true.mp List.all_takeWhile c member)
  have split := List.takeWhile_append_dropWhile (p := (· == '0')) (l := digits.reverse)
  calc digits = (digits.reverse.takeWhile (· == '0') ++ digits.reverse.dropWhile (· == '0')).reverse := by
        rw [split, List.reverse_reverse]
    _ = _ := by
        rw [List.reverse_append, ← List.reverse_replicate, ← zeros]
        rfl

/-! ### Layouts -/

theorem IsDigits.zeros_append {digits : List Char} (ok : IsDigits digits) (count : Nat) :
    IsDigits (List.replicate count '0' ++ digits) where
  nonempty := List.append_ne_nil_of_right_ne_nil _ ok.nonempty
  isDigit c member := (List.mem_append.mp member).elim (isDigit_zeros count c) (ok.isDigit c)

theorem IsDigits.append_zeros {digits : List Char} (ok : IsDigits digits) (count : Nat) :
    IsDigits (digits ++ List.replicate count '0') where
  nonempty := List.append_ne_nil_of_left_ne_nil ok.nonempty _
  isDigit c member := (List.mem_append.mp member).elim (ok.isDigit c) (isDigit_zeros count c)

/-- An exponent is written as a numeral of it, padded to two digits. -/
theorem exists_numeral_exponentChars (exponent : Int) :
    ∃ digits, Numeral (exponentChars exponent) digits exponent := by
  unfold exponentChars
  dsimp only
  generalize 2 - (Nat.toDigits 10 exponent.natAbs).length = count
  have padded := (isDigits_toDigits exponent.natAbs).zeros_append count
  have value : Nat.ofDigitChars 10 (List.replicate count '0' ++ Nat.toDigits 10 exponent.natAbs) 0 =
      exponent.natAbs := by
    rw [ofDigitChars_zeros_append, Nat.ofDigitChars_ten_toDigits]
  refine ⟨List.replicate count '0' ++ Nat.toDigits 10 exponent.natAbs, ?_⟩
  by_cases negative : exponent < 0
  · have numeral := Numeral.minus padded
    rw [value, show -((exponent.natAbs : Nat) : Int) = exponent by omega] at numeral
    rwa [if_pos negative]
  · have numeral := Numeral.plus padded
    rw [value, show ((exponent.natAbs : Nat) : Int) = exponent by omega] at numeral
    rwa [if_neg negative]

namespace DecimalText

theorem spells_digits {digits : List Char} (ok : IsDigits digits) :
    Spells digits (Nat.ofDigitChars 10 digits 0 : Nat) := by
  simpa using Spells.spelled ok .none .none

/-- Digits on both sides of a point. -/
theorem spells_point {whole behind : List Char} (ok : IsDigits whole)
    (isDigit : ∀ c ∈ behind, c.isDigit = true) :
    Spells (whole ++ '.' :: behind)
      ((Nat.ofDigitChars 10 (whole ++ behind) 0 : Nat) * 10 ^ (-behind.length : Int)) := by
  simpa using Spells.spelled ok (.point isDigit) .none

/-- Zeros between the point and the digits behind it. -/
theorem spells_zeros_digits {digits : List Char} (ok : IsDigits digits) (count : Nat) :
    Spells (['0', '.'] ++ List.replicate count '0' ++ digits)
      ((Nat.ofDigitChars 10 digits 0 : Nat) * 10 ^ (-(count + digits.length : Nat) : Int)) := by
  have spelled := spells_point (isDigits_toDigits 0) (ok.zeros_append count).isDigit
  have value : Nat.ofDigitChars 10 (Nat.toDigits 10 0 ++ (List.replicate count '0' ++ digits)) 0 =
      Nat.ofDigitChars 10 digits 0 := ofDigitChars_zeros_append (count + 1) digits
  rw [value, List.length_append, List.length_replicate] at spelled
  rwa [List.append_assoc]

/-- Zeros between the digits and the point behind them. -/
theorem spells_digits_zeros {digits : List Char} (ok : IsDigits digits) (count : Nat) :
    Spells (digits ++ List.replicate count '0' ++ ['.', '0'])
      ((Nat.ofDigitChars 10 digits 0 : Nat) * 10 ^ (count : Int)) := by
  have spelled := spells_point (ok.append_zeros count) (isDigit_zeros 1)
  have value : Nat.ofDigitChars 10 (digits ++ List.replicate count '0' ++ List.replicate 1 '0') 0 =
      10 ^ count * 10 * Nat.ofDigitChars 10 digits 0 := by
    rw [List.append_assoc, List.replicate_append_replicate, ofDigitChars_append_zeros, Nat.pow_succ]
  have number : ((10 ^ count * 10 * Nat.ofDigitChars 10 digits 0 : Nat) : ℚ) *
      10 ^ (-(List.replicate 1 '0').length : Int) =
        Nat.ofDigitChars 10 digits 0 * 10 ^ (count : Int) := by
    push_cast
    rw [zpow_natCast, List.length_singleton, Nat.cast_one, zpow_neg_one]
    ring
  rwa [value, number] at spelled

/-- **Digits with a point among them**, or zeros up to the point, are a decimal text of their number. -/
theorem spells_positional {digits : List Char} (ok : IsDigits digits) (point : Int) :
    Spells (positional digits point)
      ((Nat.ofDigitChars 10 digits 0 : Nat) * 10 ^ (point - digits.length)) := by
  unfold positional
  by_cases front : point ≤ 0
  · have spelled := spells_zeros_digits ok (-point).toNat
    rw [show -(((-point).toNat + digits.length : Nat) : Int) = point - digits.length by omega] at spelled
    rwa [if_pos front]
  · rw [if_neg front]
    by_cases beyond : digits.length ≤ point.toNat
    · have spelled := spells_digits_zeros ok (point.toNat - digits.length)
      rw [show ((point.toNat - digits.length : Nat) : Int) = point - digits.length by omega] at spelled
      rwa [if_pos beyond]
    · have whole : IsDigits (digits.take point.toNat) := by
        refine ⟨fun none => ?_, fun c member => ok.isDigit c (List.mem_of_mem_take member)⟩
        rcases List.take_eq_nil_iff.mp none with start | empty
        · omega
        · exact ok.nonempty empty
      have behind : ∀ c ∈ digits.drop point.toNat, c.isDigit = true :=
        fun c member => ok.isDigit c (List.mem_of_mem_drop member)
      have spelled := spells_point whole behind
      rw [List.take_append_drop, List.length_drop,
        show -((digits.length - point.toNat : Nat) : Int) = point - digits.length by omega] at spelled
      rwa [if_neg beyond]

/-- **Digits with the point behind the first one and an exponent** are a decimal text of their number. -/
theorem spells_scientific {digits : List Char} (ok : IsDigits digits) (exponent : Int) :
    Spells (scientific digits exponent)
      ((Nat.ofDigitChars 10 digits 0 : Nat) * 10 ^ (exponent + 1 - digits.length)) := by
  obtain ⟨exponentDigits, numeral⟩ := exists_numeral_exponentChars exponent
  obtain ⟨digit, more, rfl⟩ := List.exists_cons_of_ne_nil ok.nonempty
  have first : IsDigits [digit] := by
    refine ⟨List.cons_ne_nil _ _, fun c member => ok.isDigit c ?_⟩
    rw [List.mem_singleton.mp member]
    exact List.mem_cons_self
  have place (count : Nat) : exponent + 1 - ((count + 1 : Nat) : Int) = exponent - count := by omega
  rw [List.length_cons, place]
  cases more with
  | nil => exact Spells.spelled first .none (.exponent numeral)
  | cons second more =>
    have behind : ∀ c ∈ second :: more, c.isDigit = true :=
      fun c member => ok.isDigit c (List.mem_cons_of_mem _ member)
    exact Spells.spelled first (.point behind) (.exponent numeral)

end DecimalText

/-- A decimal other than zero is laid out as digits, and keeps its number. -/
theorem Decimal.layout_spec {decimal : Decimal} (nonzero : decimal.digits ≠ 0) :
    IsDigits decimal.layout.1 ∧
      (Nat.ofDigitChars 10 decimal.layout.1 0 : Nat) *
        10 ^ (decimal.layout.2 - decimal.layout.1.length) = decimal.value := by
  obtain ⟨count, split⟩ := dropFinalZeros_append (Nat.toDigits 10 decimal.digits)
  have digits := isDigits_toDigits decimal.digits
  have number := Nat.ofDigitChars_ten_toDigits (n := decimal.digits)
  have length := congrArg List.length split
  unfold Decimal.layout
  dsimp only
  generalize dropFinalZeros (Nat.toDigits 10 decimal.digits) = kept at split length ⊢
  rw [List.length_append, List.length_replicate] at length
  rw [split, ofDigitChars_append_zeros] at number
  constructor
  · refine ⟨fun none => nonzero ?_, fun c member => digits.isDigit c ?_⟩
    · rw [← number, none, Nat.ofDigitChars_nil, Nat.mul_zero]
    · rw [split]
      exact List.mem_append_left _ member
  · unfold Decimal.value
    rw [length, ← number, show ((kept.length + count : Nat) : Int) + decimal.exponent - kept.length =
      count + decimal.exponent by omega, zpow_add₀ (by norm_num), zpow_natCast]
    push_cast
    ring

/-! ### The shortest decimal -/

theorem Double.ofRank_eq_finite_iff (negative : Bool) (position : Nat) (magnitude : Magnitude) :
    ofRank negative position = .finite negative magnitude ↔ position = magnitude.rank := by
  constructor
  · intro same
    unfold ofRank at same
    split at same
    · next inside =>
      rw [← (Double.finite.inj same).2, Magnitude.rank_ofRank]
    · cases same
  · rintro rfl
    exact ofRank_rank negative magnitude

namespace Magnitude

/-- A binary fraction is a decimal of as many places. -/
theorem value_of_places (units places : Nat) :
    (⟨units * Nat.pow 5 places, -places⟩ : Decimal).value * (Nat.pow 2 places : Nat) = units := by
  have one : (5 : ℚ) ^ places * 10 ^ (-places : Int) * 2 ^ places = 1 := by
    rw [zpow_neg, zpow_natCast, mul_right_comm, ← mul_pow]
    norm_num
  unfold Decimal.value
  rw [Nat.pow_eq, Nat.pow_eq]
  push_cast
  calc (units : ℚ) * 5 ^ places * 10 ^ (-places : Int) * 2 ^ places
      = units * (5 ^ places * 10 ^ (-places : Int) * 2 ^ places) := by ring
    _ = units := by rw [one, mul_one]

theorem exact_value (magnitude : Magnitude) :
    magnitude.exact.value * Double.unitsInOne = magnitude.units := by
  have places : (-1074 : Int) = -((1074 : Nat) : Int) := rfl
  unfold exact Double.unitsInOne
  rw [places]
  -- The powers are too big to be worked out.
  generalize (1074 : Nat) = places
  exact value_of_places magnitude.units places

/-- A candidate reads back, and is a neighbour. -/
theorem candidate?_spec {magnitude : Magnitude} {exponent : Int} {decimal : Decimal}
    (found : magnitude.candidate? exponent = some decimal) : magnitude.readsBack decimal = true ∧
      (decimal = (magnitude.neighbours exponent).1 ∨ decimal = (magnitude.neighbours exponent).2) := by
  unfold candidate? at found
  generalize magnitude.neighbours exponent = pair at found ⊢
  obtain ⟨near, far⟩ := pair
  dsimp only at found ⊢
  by_cases nearBack : magnitude.readsBack near = true
  · rw [if_pos nearBack] at found
    cases found
    exact ⟨nearBack, .inl rfl⟩
  · rw [if_neg nearBack] at found
    by_cases farBack : magnitude.readsBack far = true
    · rw [if_pos farBack] at found
      cases found
      exact ⟨farBack, .inr rfl⟩
    · rw [if_neg farBack] at found
      cases found

theorem readsBack_shortest (magnitude : Magnitude) :
    magnitude.readsBack magnitude.shortest = true := by
  unfold shortest
  dsimp only
  generalize search : List.findSome? _ _ = found
  cases found with
  | some decimal =>
    obtain ⟨_, _, candidate⟩ := List.exists_of_findSome?_eq_some search
    exact (candidate?_spec candidate).1
  | none => exact decide_eq_true (Decimal.toDouble_of_value magnitude.exact_value false)

/-- **The decimal a magnitude is written by has the magnitude as its double**, under either sign. -/
theorem toDouble_shortest (magnitude : Magnitude) (negative : Bool) :
    magnitude.shortest.toDouble negative = .finite negative magnitude := by
  have back : magnitude.shortest.toDouble false = .finite false magnitude :=
    of_decide_eq_true magnitude.readsBack_shortest
  unfold Decimal.toDouble Double.nearest at back ⊢
  rw [Double.ofRank_eq_finite_iff] at back ⊢
  exact back

theorem rank_eq_zero {magnitude : Magnitude} (zero : magnitude.rank = 0) : magnitude.units = 0 := by
  have significand : magnitude.significand = 0 := by
    unfold rank at zero
    omega
  unfold units
  rw [significand, Nat.zero_mul]

theorem digits_ne_zero_of_readsBack {magnitude : Magnitude} (nonzero : magnitude.units ≠ 0)
    {decimal : Decimal} (back : magnitude.readsBack decimal = true) : decimal.digits ≠ 0 := by
  intro zero
  have small : 2 * decimal.numerator < decimal.denominator := by
    unfold Decimal.numerator
    rw [zero, Nat.zero_mul, Nat.zero_mul]
    exact decimal.denominator_pos
  have double := of_decide_eq_true back
  unfold Decimal.toDouble Double.nearest at double
  rw [Double.ofRank_eq_finite_iff, Double.nearestRank_eq_zero small] at double
  exact nonzero (rank_eq_zero double.symm)

/-- The text of a magnitude with a point or an exponent is a decimal text. -/
theorem spells_decimalChars (magnitude : Magnitude) :
    ∃ decimal : Decimal, DecimalText.Spells magnitude.decimalChars decimal.value ∧
      ∀ negative, decimal.toDouble negative = .finite negative magnitude := by
  unfold decimalChars
  by_cases zero : magnitude.units = 0
  · have spelled := DecimalText.Spells.spelled (isDigits_toDigits 0) (.point (isDigit_zeros 1)) .none
    refine ⟨⟨0, -1⟩, ?_, Decimal.toDouble_of_value ?_⟩
    · rw [if_pos zero]
      exact spelled
    · unfold Decimal.value
      rw [Nat.cast_zero, zero_mul, zero_mul, zero, Nat.cast_zero]
  · have digits := digits_ne_zero_of_readsBack zero magnitude.readsBack_shortest
    obtain ⟨ok, value⟩ := Decimal.layout_spec digits
    refine ⟨magnitude.shortest, ?_, magnitude.toDouble_shortest⟩
    rw [if_neg zero, ← value]
    dsimp only
    split
    · exact DecimalText.spells_positional ok _
    · have spelled := DecimalText.spells_scientific ok (magnitude.shortest.layout.2 - 1)
      rwa [Int.sub_add_cancel] at spelled

/-- The text of a magnitude that is an integer is a decimal text too. -/
theorem spells_whole {magnitude : Magnitude} (whole : magnitude.units % Double.unitsInOne = 0) :
    ∃ decimal : Decimal,
      DecimalText.Spells (Nat.toDigits 10 (magnitude.units / Double.unitsInOne)) decimal.value ∧
        ∀ negative, decimal.toDouble negative = .finite negative magnitude := by
  have spelled :=
    DecimalText.spells_digits (isDigits_toDigits (magnitude.units / Double.unitsInOne))
  have units : magnitude.units / Double.unitsInOne * Double.unitsInOne = magnitude.units :=
    Nat.div_mul_cancel (Nat.dvd_of_mod_eq_zero whole)
  have value : (⟨magnitude.units / Double.unitsInOne, 0⟩ : Decimal).value =
      (magnitude.units / Double.unitsInOne : Nat) := by
    unfold Decimal.value
    rw [zpow_zero, mul_one]
  refine ⟨⟨magnitude.units / Double.unitsInOne, 0⟩, ?_, Decimal.toDouble_of_value ?_⟩
  · rw [value]
    rwa [Nat.ofDigitChars_ten_toDigits] at spelled
  · rw [value]
    exact_mod_cast units

end Magnitude

/-! ### Bits -/

namespace Double

/-- Below the sign bit, the bits of a double are its position among the magnitudes. -/
theorem ofBits_ofNat (negative : Bool) {position : Nat} (inside : position ≤ Magnitude.count) :
    ofBits (.ofNat (position + if negative then 0x8000000000000000 else 0)) =
      ofRank negative position := by
  have bound : Magnitude.count < 0x8000000000000000 := by decide
  have size : (UInt64.ofNat (position + if negative then 0x8000000000000000 else 0)).toNat =
      position + if negative then 0x8000000000000000 else 0 := by
    rw [UInt64.toNat_ofNat']
    split <;> omega
  have sign : decide (0x8000000000000000 ≤ position + if negative then 0x8000000000000000 else 0) =
      negative := by
    cases negative
    · simp
      omega
    · simp
  have rest : (position + if negative then 0x8000000000000000 else 0) % 0x8000000000000000 =
      position := by
    split <;> omega
  unfold ofBits
  dsimp only
  rw [size, sign, rest, if_neg (Nat.not_lt.mpr inside)]

theorem ofBits_toBits (double : Double) : ofBits double.toBits = double := by
  cases double with
  | nan => decide
  | infinite negative =>
    unfold toBits
    rw [ofBits_ofNat negative (Nat.le_refl _)]
    exact dif_neg (Nat.lt_irrefl _)
  | finite negative magnitude =>
    unfold toBits
    rw [ofBits_ofNat negative (Nat.le_of_lt magnitude.rank_lt), ofRank_rank]

/-- The bits of the double at a position, the infinite one past the magnitudes included. -/
theorem toBits_ofRank (negative : Bool) {position : Nat} (inside : position ≤ Magnitude.count) :
    (ofRank negative position).toBits =
      .ofNat (position + if negative then 0x8000000000000000 else 0) := by
  unfold ofRank
  by_cases finite : position < Magnitude.count
  · have rank := Magnitude.rank_ofRank position finite
    rw [dif_pos finite]
    unfold toBits
    dsimp only
    rw [rank]
  · rw [dif_neg finite, Nat.le_antisymm inside (Nat.not_lt.mp finite)]
    rfl

theorem toBits_ofBits (bits : UInt64) : ofBits bits = .nan ∨ (ofBits bits).toBits = bits := by
  unfold ofBits
  dsimp only
  by_cases inside : Magnitude.count < bits.toNat % 0x8000000000000000
  · exact .inl (if_pos inside)
  · right
    rw [if_neg inside]
    have size := bits.toNat_lt
    have split : bits.toNat % 0x8000000000000000 +
        (if decide (0x8000000000000000 ≤ bits.toNat) = true then 0x8000000000000000 else 0) =
          bits.toNat := by
      by_cases high : 0x8000000000000000 ≤ bits.toNat
      · rw [if_pos (decide_eq_true high)]
        omega
      · rw [if_neg (by simpa using high)]
        omega
    rw [toBits_ofRank _ (Nat.not_lt.mp inside), split, UInt64.ofNat_toNat]

/-! ### Texts -/

/-- A finite double is written as a sign and a decimal text, which has it as its double. -/
theorem exists_spells_text (negative : Bool) (magnitude : Magnitude) :
    ∃ characters, ∃ decimal : Decimal,
      (Double.finite negative magnitude).text = String.ofList (signChars negative ++ characters) ∧
        DecimalText.Spells characters decimal.value ∧
        decimal.toDouble negative = .finite negative magnitude := by
  unfold text
  dsimp only
  by_cases whole : magnitude.units % unitsInOne = 0 ∧ magnitude.units / unitsInOne < Nat.pow 10 16
  · rw [if_pos whole]
    obtain ⟨decimal, spelled, double⟩ := Magnitude.spells_whole whole.1
    exact ⟨_, decimal, rfl, spelled, double negative⟩
  · rw [if_neg whole]
    obtain ⟨decimal, spelled, double⟩ := magnitude.spells_decimalChars
    exact ⟨_, decimal, rfl, spelled, double negative⟩

/-- **The text of a double is read back as it, to the bit.** A finite double is written in the grammar
of decimal texts and is the double of its text; the other doubles are written by their names. -/
theorem text_reads_back (double : Double) :
    readDouble double.text = some double ∧
      (match double with
        | .finite _ _ => ∃ text, DecimalText.ofText? double.text = some text ∧ text.toDouble = double
        | _ => (lowerAscii double.text, double) ∈ specialDoubles) ∧
      ofBits double.toBits = double ∧
      ∀ bits, ofBits bits = double → double = .nan ∨ double.toBits = bits := by
  have bits : ofBits double.toBits = double ∧
      ∀ bits, ofBits bits = double → double = .nan ∨ double.toBits = bits := by
    refine ⟨ofBits_toBits double, fun bits same => ?_⟩
    rw [← same]
    exact toBits_ofBits bits
  cases double with
  | nan => exact ⟨by decide, by decide, bits⟩
  | infinite negative => cases negative <;> exact ⟨by decide, by decide, bits⟩
  | finite negative magnitude =>
    obtain ⟨characters, decimal, written, spelled, back⟩ := exists_spells_text negative magnitude
    obtain ⟨text, parsed, sign, value, digits⟩ := DecimalText.ofText?_of_spells spelled negative
    refine ⟨?_, ⟨text, written ▸ parsed, ?_⟩, bits⟩
    · rw [written, readDouble_of_spells spelled negative, back]
    · rw [DecimalText.toDouble_eq digits, sign, Decimal.toDouble_congr value, back]

end Double

end Argline
