/-
**Decimal texts, read.**

* `DecimalText.Spells`: the grammar of decimal texts without a sign, with the number a text spells;
* `DecimalText.ofText?_of_spells`: such a text is taken apart, under either sign;
* `readDouble_of_spells`: it is read as the double of its number, and not as a special value.
-/

import Argline.Number.Shortest
import Argline.Proofs.Bindings
import Argline.Proofs.Fronts
import Argline.Proofs.Number.Decimal

namespace Argline

namespace DecimalText

/-- Nothing, or a point with the digits behind it. -/
inductive Fraction : List Char → List Char → Prop
  | none : Fraction [] []
  | point {digits : List Char} (isDigit : ∀ c ∈ digits, c.isDigit = true) :
    Fraction ('.' :: digits) digits

/-- Nothing, or an e with an integer text behind it. -/
inductive Ending : List Char → Int → Prop
  | none : Ending [] 0
  | exponent {characters digits : List Char} {value : Int}
    (numeral : Numeral characters digits value) : Ending ('e' :: characters) value

/-- Characters that spell a number: digits, of which there is at least one, maybe with more of them
behind a point, and maybe an exponent. -/
inductive Spells : List Char → ℚ → Prop
  | spelled {whole part fraction ending : List Char} {exponent : Int} (digits : IsDigits whole)
    (behind : Fraction part fraction) (ends : Ending ending exponent) :
    Spells (whole ++ part ++ ending) ((Nat.ofDigitChars 10 (whole ++ fraction) 0 : Nat) *
      10 ^ (exponent - fraction.length))

theorem Fraction.isDigit {part fraction : List Char} (behind : Fraction part fraction) :
    ∀ c ∈ fraction, c.isDigit = true := by
  cases behind with
  | none => exact fun _ member => nomatch member
  | point isDigit => exact isDigit

/-! ### Taking apart -/

/-- A text begins with no digit. -/
def StopsDigits (rest : List Char) : Prop := ∀ c ∈ rest.head?, c.isDigit = false

theorem splitDigits_append {digits rest : List Char} (isDigit : ∀ c ∈ digits, c.isDigit = true)
    (stops : StopsDigits rest) : splitDigits (digits ++ rest) = (digits, rest) := by
  rw [splitDigits, takeWhile_append_of_stops isDigit stops, dropWhile_append_of_stops isDigit stops]

theorem Ending.stopsDigits {ending : List Char} {exponent : Int} (ends : Ending ending exponent) :
    StopsDigits ending := by
  cases ends with
  | none => exact fun _ none => nomatch none
  | exponent numeral =>
    rintro c ⟨⟩
    rfl

theorem exponent?_of_ending {ending : List Char} {exponent : Int} (ends : Ending ending exponent) :
    exponent? ending = some exponent := by
  cases ends with
  | none => rfl
  | exponent numeral =>
    obtain ⟨text, parsed, _, value⟩ := (ofChars?_eq_some_iff _ _ _).mpr numeral
    simp only [exponent?, true_or, if_true, parsed, Option.map_some, value]

theorem splitFraction_append {part fraction ending : List Char} {exponent : Int}
    (behind : Fraction part fraction) (ends : Ending ending exponent) :
    splitFraction (part ++ ending) = (fraction, ending) := by
  cases behind with
  | none =>
    cases ends with
    | none => rfl
    | exponent numeral => rfl
  | point isDigit => exact splitDigits_append isDigit ends.stopsDigits

theorem Fraction.stopsDigits {part fraction ending : List Char} {exponent : Int}
    (behind : Fraction part fraction) (ends : Ending ending exponent) :
    StopsDigits (part ++ ending) := by
  cases behind with
  | none => exact ends.stopsDigits
  | point isDigit =>
    rintro c ⟨⟩
    rfl

theorem splitSign_append {negative : Bool} {whole : List Char} (digits : IsDigits whole)
    (rest : List Char) :
    IntegerText.splitSign (Double.signChars negative ++ (whole ++ rest)) =
      (negative, whole ++ rest) := by
  cases negative with
  | true => rfl
  | false =>
    obtain ⟨c, more, rfl⟩ := List.exists_cons_of_ne_nil digits.nonempty
    have digit := digits.isDigit c List.mem_cons_self
    have plus : c ≠ '+' := ne_of_isDigit digit (by decide)
    have minus : c ≠ '-' := ne_of_isDigit digit (by decide)
    simp [Double.signChars, IntegerText.splitSign, plus, minus]

/-- **A decimal text under a sign is taken apart**, and has the number that it spells. -/
theorem ofText?_of_spells {characters : List Char} {value : ℚ} (spelled : Spells characters value)
    (negative : Bool) :
    ∃ text, ofText? (String.ofList (Double.signChars negative ++ characters)) = some text ∧
      text.negative = negative ∧ text.magnitude.value = value ∧
      ∀ c ∈ text.whole ++ text.fraction, c.isDigit = true := by
  cases spelled with
  | @spelled whole part fraction ending exponent digits behind ends =>
    refine ⟨⟨negative, whole, fraction, exponent⟩, ?_, rfl, rfl, fun c member => ?_⟩
    · have some : ¬ (whole = [] ∧ fraction = []) := fun none => digits.nonempty none.1
      unfold ofText?
      rw [String.toList_ofList, List.append_assoc whole, splitSign_append digits]
      dsimp only
      rw [splitDigits_append digits.isDigit (behind.stopsDigits ends)]
      dsimp only
      rw [splitFraction_append behind ends]
      dsimp only
      rw [if_neg some, exponent?_of_ending ends, Option.map_some]
    · rcases List.mem_append.mp member with inWhole | inFraction
      · exact digits.isDigit c inWhole
      · exact behind.isDigit c inFraction

end DecimalText

/-- A text that begins with a digit, maybe under a minus sign, is the name of no special value. -/
theorem lookup_specialDoubles_of_digit {digit : Char} (isDigit : digit.isDigit = true)
    (negative : Bool) (rest : List Char) :
    specialDoubles.lookup (lowerAscii (String.ofList (Double.signChars negative ++ digit :: rest)))
      = none := by
  have same : digit.toLower = digit := by
    have range := Char.isDigit_iff_toNat.mp isDigit
    unfold Char.toLower
    refine dif_neg fun capital => ?_
    have late : 'A'.toNat ≤ digit.toNat := capital.1
    have nine : '9'.toNat < 'A'.toNat := by decide
    omega
  rw [lookup_eq_none_iff_notMem]
  intro special
  have names : ∀ name ∈ specialDoubles.map Prod.fst, ∀ c ∈ (name.toList.drop negative.toNat).head?,
      c.isDigit = false := by
    cases negative <;> simp [specialDoubles]
  have begins := names _ special digit
  cases negative <;> simp [lowerAscii, Double.signChars, same, isDigit] at begins

/-- **A decimal text is read as the double of its number.** -/
theorem readDouble_of_spells {characters : List Char} {decimal : Decimal}
    (spelled : DecimalText.Spells characters decimal.value) (negative : Bool) :
    readDouble (String.ofList (Double.signChars negative ++ characters)) =
      some (decimal.toDouble negative) := by
  obtain ⟨digit, rest, begins, isDigit⟩ :
      ∃ digit rest, characters = digit :: rest ∧ digit.isDigit = true := by
    generalize decimal.value = value at spelled
    cases spelled with
    | @spelled whole part fraction ending exponent digits behind ends =>
      obtain ⟨digit, more, rfl⟩ := List.exists_cons_of_ne_nil digits.nonempty
      exact ⟨digit, _, rfl, digits.isDigit digit List.mem_cons_self⟩
  obtain ⟨text, parsed, sign, value, digits⟩ := DecimalText.ofText?_of_spells spelled negative
  unfold readDouble
  rw [begins, lookup_specialDoubles_of_digit isDigit, ← begins, parsed]
  dsimp only
  rw [Option.map_some, DecimalText.toDouble_eq digits, sign, Decimal.toDouble_congr value]

end Argline
