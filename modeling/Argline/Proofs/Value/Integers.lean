/-
**Integers are read by their value.**

However an integer is spelled, it is its value that is read, and of all its spellings the canonical one
is printed.

* `Value.integerOfToken_eq_ok_iff`, `Value.wordOfToken_eq_ok_iff`: which tokens are integers, and which
  are words;
* `Value.format_bigInt_of_integerOfToken`, `Value.format_word`: how they are printed;
* `Value.integers_by_value`: what is read, within which bounds, and when a token is what is printed for
  it.
-/

import Argline.Proofs.Number.Canonical
import Argline.Proofs.Value.Normal

namespace Argline

namespace Value

theorem integerOfToken_eq_ok_iff (label token : String) (number : Int) :
    integerOfToken label token = .ok number ↔ readInteger token = .ok number := by
  unfold integerOfToken
  cases readInteger token with
  | ok other => simp
  | error fault => simp

/-- A token is a word exactly if it is the integer of the word. -/
theorem wordOfToken_eq_ok_iff (label token : String) (word : Word) :
    wordOfToken label token = .ok word ↔ integerOfToken label token = .ok word.value := by
  rw [wordOfToken, bind_eq_ok_iff]
  constructor
  · rintro ⟨number, read, inside⟩
    split at inside
    · next found =>
      obtain rfl := pure_eq_ok_iff.mp inside
      rwa [Word.value_of_ofInt? found]
    · cases inside
  · intro read
    refine ⟨word.value, read, ?_⟩
    rw [Word.ofInt?_value]
    rfl

/-- **A token of few digits is an integer exactly if it is digits, with a sign in front of them or
none.** -/
theorem integerOfToken_eq_ok_iff_of_short (label : String) {token : String}
    (short : token.toList.countP Char.isDigit ≤ digitLimit) (number : Int) :
    integerOfToken label token = .ok number ↔ ∃ digits, Numeral token.toList digits number := by
  rw [integerOfToken_eq_ok_iff, ← String.ofList_toList (s := token), readInteger_eq_ok_iff,
    String.toList_ofList]
  refine exists_congr fun digits => and_iff_left_of_imp fun numeral => ?_
  rwa [numeral.length_digits]

/-- An integer that was read is printed with its digits. -/
theorem format_bigInt_of_integerOfToken {label token : String} {number : Int}
    (read : integerOfToken label token = .ok number) :
    format (.scalar .bigInt) (.int number) = .ok (String.ofList (integerChars number)) :=
  token_bigInt (isWritable_of_integerOfToken read)

theorem format_word (word : Word) :
    format (.scalar .int) (.int word.value) = .ok (String.ofList (integerChars word.value)) :=
  token_int word

/-- A token that is an integer is printed for it again exactly if it is canonical. -/
theorem printed_iff_isCanonical {label token : String} {number : Int}
    (read : integerOfToken label token = .ok number) :
    (.ok (String.ofList (integerChars number)) : Except (Halt Mismatch) String) = .ok token ↔
      IsCanonical token.toList := by
  rw [integerOfToken_eq_ok_iff, ← String.ofList_toList (s := token), readInteger_eq_ok_iff] at read
  obtain ⟨digits, numeral, _⟩ := read
  rw [Except.ok.injEq, ← numeral.integerChars_eq_iff, ← String.toList_inj, String.toList_ofList]

/-- **Integers are read by their value, and printed in one way.** A token of no more than 4300 digits is
read as an integer exactly if it is digits with a sign in front of them or none, and the integer is the
one that they stand for. It is read as a word exactly if this integer has 64 bits. What was read is
printed as the token again exactly if the token is canonical. -/
theorem integers_by_value (label token : String)
    (short : token.toList.countP Char.isDigit ≤ 4300) :
    (∀ number, integerOfToken label token = .ok number ↔ ∃ digits, IsDigits digits ∧
      ((token.toList = digits ∨ token.toList = '+' :: digits) ∧ number = placeValue digits ∨
        token.toList = '-' :: digits ∧ number = -placeValue digits)) ∧
    (∀ number, (∃ word, wordOfToken label token = .ok word ∧ word.value = number) ↔
      integerOfToken label token = .ok number ∧ -2 ^ 63 ≤ number ∧ number ≤ 2 ^ 63 - 1) ∧
    (∀ number, integerOfToken label token = .ok number →
      (format (.scalar .bigInt) (.int number) = .ok token ↔ IsCanonical token.toList)) ∧
    ∀ word, wordOfToken label token = .ok word →
      (format (.scalar .int) (.int word.value) = .ok token ↔ IsCanonical token.toList) := by
  refine ⟨fun number => ?_, fun number => ?_, fun number read => ?_, fun word read => ?_⟩
  · rw [integerOfToken_eq_ok_iff_of_short label short, numeral_iff]
  · simp only [wordOfToken_eq_ok_iff]
    constructor
    · rintro ⟨word, read, rfl⟩
      exact ⟨read, word.least_le, Int.le_sub_one_of_lt word.lt_bound⟩
    · rintro ⟨read, least, greatest⟩
      exact ⟨⟨number, least, Int.lt_of_le_sub_one greatest⟩, read, rfl⟩
  · rw [format_bigInt_of_integerOfToken read]
    exact printed_iff_isCanonical read
  · rw [format_word]
    exact printed_iff_isCanonical ((wordOfToken_eq_ok_iff _ _ _).mp read)

/-- The least word with a zero in front is read, but not printed so. -/
theorem integers_by_value_least :
    let token := "-09223372036854775808"
    token.toList.countP Char.isDigit ≤ 4300 ∧
      (∃ word, wordOfToken "Int" token = .ok word ∧ word.value = -2 ^ 63) ∧
      format (.scalar .bigInt) (.int (-2 ^ 63)) ≠ .ok token := by
  intro token
  have short : token.toList.countP Char.isDigit ≤ 4300 := by decide
  obtain ⟨reads, words, prints, _⟩ := integers_by_value "Int" token short
  have digits : IsDigits "09223372036854775808".toList := (isDigits_iff _).mpr (by decide)
  have read : integerOfToken "Int" token = .ok (-2 ^ 63) :=
    (reads _).mpr ⟨_, digits, .inr ⟨by decide, by decide⟩⟩
  refine ⟨short, (words _).mpr ⟨read, by decide, by decide⟩, fun printed => ?_⟩
  have canonical := (prints _ read).mp printed
  have spelled : token.toList = '-' :: '0' :: "9223372036854775808".toList := by decide
  exact absurd (canonical.noLeadingZero _ (.inr spelled)) (by decide)

end Value

end Argline
