/-
**The one canonical text of an integer.**

Of the many numerals of an integer one has no plus sign, no zeros in front and no minus sign in front of
zero, and this is the one that is written.

* `placeValue`, `numeral_iff`: what the digits of a numeral stand for, place by place;
* `NoLeadingZero`, `toDigits_ofDigitChars`: digits without zeros in front are the digits of their number;
* `IsCanonical`, `Numeral.integerChars_eq_iff`: a numeral is what is written for its integer exactly if
  it is canonical.
-/

import Argline.Proofs.Number.IntegerText
import Mathlib.Data.List.Induction
import Mathlib.Data.Nat.Digits.Defs

namespace Argline

/-! ### Places -/

/-- The number that digits stand for. The last one counts ones, and every other one ten times as much as
the one behind it. -/
def placeValue (digits : List Char) : Nat :=
  Nat.ofDigits 10 (digits.reverse.map fun c => c.toNat - '0'.toNat)

theorem ofDigitChars_eq_placeValue (digits : List Char) :
    Nat.ofDigitChars 10 digits 0 = placeValue digits := by
  induction digits using List.reverseRecOn with
  | nil => rfl
  | append_singleton front c ih =>
    rw [Nat.ofDigitChars_append, Nat.ofDigitChars_cons, Nat.ofDigitChars_nil, ih, placeValue,
      placeValue, List.reverse_append, List.reverse_singleton, List.singleton_append, List.map_cons,
      Nat.ofDigits_cons, Nat.add_comm]

/-- **A numeral is digits, and a sign in front of them or none.** -/
theorem numeral_iff (characters : List Char) (value : Int) :
    (∃ digits, Numeral characters digits value) ↔ ∃ digits, IsDigits digits ∧
      ((characters = digits ∨ characters = '+' :: digits) ∧ value = placeValue digits ∨
        characters = '-' :: digits ∧ value = -placeValue digits) := by
  simp only [← ofDigitChars_eq_placeValue]
  constructor
  · rintro ⟨digits, ⟨ok⟩ | ⟨ok⟩ | ⟨ok⟩⟩
    · exact ⟨_, ok, .inl ⟨.inl rfl, rfl⟩⟩
    · exact ⟨_, ok, .inl ⟨.inr rfl, rfl⟩⟩
    · exact ⟨_, ok, .inr ⟨rfl, rfl⟩⟩
  · rintro ⟨digits, ok, ⟨rfl | rfl, rfl⟩ | ⟨rfl, rfl⟩⟩
    · exact ⟨_, .plain ok⟩
    · exact ⟨_, .plus ok⟩
    · exact ⟨_, .minus ok⟩

/-- The digits of a numeral are all digits that are in it. -/
theorem Numeral.length_digits {characters digits : List Char} {value : Int}
    (numeral : Numeral characters digits value) :
    digits.length = characters.countP Char.isDigit := by
  have count {digits : List Char} (ok : IsDigits digits) :
      digits.countP Char.isDigit = digits.length := List.countP_eq_length.mpr ok.isDigit
  rcases numeral with ⟨ok⟩ | ⟨ok⟩ | ⟨ok⟩
  · exact (count ok).symm
  · rw [List.countP_cons_of_neg (by decide), count ok]
  · rw [List.countP_cons_of_neg (by decide), count ok]

/-! ### Zeros in front -/

/-- Digits that do not begin with a zero, but for zero itself. -/
def NoLeadingZero (digits : List Char) : Prop := ∀ rest, digits = '0' :: rest → rest = []

/-- The digits of a number have no zeros in front: without one they would be too few for it. -/
theorem noLeadingZero_toDigits (number : Nat) : NoLeadingZero (Nat.toDigits 10 number) := by
  intro rest begins
  by_contra some
  have ok := isDigits_toDigits number
  have isDigit : ∀ c ∈ rest, c.isDigit = true := fun c member =>
    ok.isDigit c (begins ▸ List.mem_cons_of_mem _ member)
  have value : number = Nat.ofDigitChars 10 rest 0 := by
    rw [← Nat.ofDigitChars_ten_toDigits (n := number), begins, Nat.ofDigitChars_cons]
    rfl
  have small : number < 10 ^ rest.length := by
    have bound := ofDigitChars_lt isDigit 0
    rwa [← value, Nat.zero_add, Nat.one_mul] at bound
  have few := (Nat.length_toDigits_le_iff (by decide) (List.length_pos_iff.mpr some)).mpr small
  rw [begins, List.length_cons] at few
  omega

/-- A digit is written for its number. -/
theorem digitChar_of_isDigit {c : Char} (digit : c.isDigit = true) :
    Nat.digitChar (c.toNat - '0'.toNat) = c ∧ c.toNat - '0'.toNat < 10 := by
  have range := Char.isDigit_iff_toNat.mp digit
  have zero : '0'.toNat = 48 := by decide
  have nine : '9'.toNat = 57 := by decide
  have small : c.toNat - '0'.toNat < 10 := by omega
  refine ⟨Char.toNat_inj.mp ?_, small⟩
  rw [Nat.toNat_digitChar_of_lt_ten small]
  omega

/-- **Digits without zeros in front are the digits of their number.** -/
theorem toDigits_ofDigitChars {digits : List Char} (ok : IsDigits digits)
    (lead : NoLeadingZero digits) : Nat.toDigits 10 (Nat.ofDigitChars 10 digits 0) = digits := by
  induction digits using List.reverseRecOn with
  | nil => exact absurd rfl ok.nonempty
  | append_singleton front c ih =>
    obtain ⟨written, small⟩ := digitChar_of_isDigit (ok.isDigit c (by simp))
    rw [Nat.ofDigitChars_append, Nat.ofDigitChars_cons, Nat.ofDigitChars_nil]
    have single : Nat.toDigits 10 (c.toNat - '0'.toNat) = [c] := by
      rw [Nat.toDigits_of_lt_base small, written]
    by_cases alone : front = []
    · rw [alone, Nat.ofDigitChars_nil, Nat.mul_zero, Nat.zero_add, single, List.nil_append]
    · have frontOk : IsDigits front :=
        ⟨alone, fun d member => ok.isDigit d (List.mem_append_left _ member)⟩
      have frontDigits := ih frontOk fun rest begins => by
        have none := lead (rest ++ [c]) (by rw [begins, List.cons_append])
        simp at none
      -- A front that stands for zero would be the zero that the digits do not begin with.
      have positive : 0 < Nat.ofDigitChars 10 front 0 := by
        refine Nat.pos_of_ne_zero fun zero => ?_
        rw [zero, Nat.toDigits_zero] at frontDigits
        have none := lead [c] (by rw [← frontDigits, List.singleton_append])
        cases none
      rw [← Nat.toDigits_append_toDigits (by decide) positive small, frontDigits, single]

/-! ### Canonical texts -/

/-- A text without a plus sign, without zeros in front of other digits, and that is not zero with a minus
sign. -/
structure IsCanonical (characters : List Char) : Prop where
  noPlus : '+' ∉ characters
  noLeadingZero : ∀ rest, characters = '0' :: rest ∨ characters = '-' :: '0' :: rest → rest = []
  notMinusZero : characters ≠ ['-', '0']

/-- **What is written for an integer is canonical.** -/
theorem isCanonical_integerChars (number : Int) : IsCanonical (integerChars number) := by
  have ok := isDigits_toDigits number.natAbs
  have lead := noLeadingZero_toDigits number.natAbs
  have notMem (sign : Char) (noDigit : sign.isDigit = false) :
      sign ∉ Nat.toDigits 10 number.natAbs := fun member =>
    ne_of_isDigit (ok.isDigit _ member) noDigit rfl
  unfold integerChars
  split
  · next negative =>
    refine ⟨?_, fun rest begins => ?_, fun zero => ?_⟩
    · simpa using notMem '+' (by decide)
    · rcases begins with plain | minus
      · cases plain
      · exact lead rest (List.cons.inj minus).2
    · have value := Nat.ofDigitChars_ten_toDigits (n := number.natAbs)
      rw [(List.cons.inj zero).2] at value
      have none : number.natAbs = 0 := value.symm
      omega
  · refine ⟨notMem '+' (by decide), fun rest begins => ?_, fun zero => ?_⟩
    · rcases begins with plain | minus
      · exact lead rest plain
      · exact absurd (minus ▸ List.mem_cons_self) (notMem '-' (by decide))
    · exact absurd (zero ▸ List.mem_cons_self) (notMem '-' (by decide))

/-- **A numeral is what is written for its integer exactly if it is canonical.** -/
theorem Numeral.integerChars_eq_iff {characters digits : List Char} {value : Int}
    (numeral : Numeral characters digits value) :
    integerChars value = characters ↔ IsCanonical characters := by
  constructor
  · rintro rfl
    exact isCanonical_integerChars value
  · intro canonical
    rcases numeral with ⟨ok⟩ | ⟨ok⟩ | ⟨ok⟩
    · have lead : NoLeadingZero characters := fun rest begins =>
        canonical.noLeadingZero rest (.inl begins)
      rw [integerChars, if_neg (by omega), Int.natAbs_natCast, toDigits_ofDigitChars ok lead]
    · exact absurd List.mem_cons_self canonical.noPlus
    · have lead : NoLeadingZero digits := fun rest begins =>
        canonical.noLeadingZero rest (.inr (by rw [begins]))
      have written := toDigits_ofDigitChars ok lead
      have positive : 0 < Nat.ofDigitChars 10 digits 0 := by
        refine Nat.pos_of_ne_zero fun zero => canonical.notMinusZero ?_
        rw [← written, zero, Nat.toDigits_zero]
      rw [integerChars, if_pos (by omega), Int.natAbs_neg, Int.natAbs_natCast, written]

end Argline
