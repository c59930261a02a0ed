/-
**Integer texts, read and written.**

* `Numeral`: characters that stand for an integer in base ten, with their digits and their value;
* `readInteger_eq_ok_iff`, `readInteger_eq_tooLong_iff`: what is read, and what is too long for it;
* `IsWritable`, `readInteger_integerChars`: an integer with at most `digitLimit` digits is read back
  from its text;
* `ofDigitChars_lt`, `Numeral.length_toDigits_le`: digits bound a number, and an integer is written with
  no more digits than it was read from.
-/

import Argline.Number.Word
import Mathlib.Tactic.Common

namespace Argline

/-- ASCII digits, of which there is at least one. -/
structure IsDigits (digits : List Char) : Prop where
  nonempty : digits ≠ []
  isDigit : ∀ c ∈ digits, c.isDigit = true

/-- Characters that stand for an integer in base ten: digits under an optional sign. The digits and
the value are those of the characters. -/
inductive Numeral : List Char → List Char → Int → Prop
  | plain {digits : List Char} (ok : IsDigits digits) :
    Numeral digits digits (Nat.ofDigitChars 10 digits 0 : Nat)
  | plus {digits : List Char} (ok : IsDigits digits) :
    Numeral ('+' :: digits) digits (Nat.ofDigitChars 10 digits 0 : Nat)
  | minus {digits : List Char} (ok : IsDigits digits) :
    Numeral ('-' :: digits) digits (-(Nat.ofDigitChars 10 digits 0 : Nat))

theorem isDigits_iff (digits : List Char) :
    IsDigits digits ↔ digits ≠ [] ∧ digits.all Char.isDigit = true := by
  rw [List.all_eq_true]
  exact ⟨fun ok => ⟨ok.nonempty, ok.isDigit⟩, fun ok => ⟨ok.1, ok.2⟩⟩

theorem isDigits_toDigits (number : Nat) : IsDigits (Nat.toDigits 10 number) where
  nonempty := Nat.toDigits_ne_nil
  isDigit _ member := Nat.isDigit_of_mem_toDigits (by decide) (by decide) member

/-- No digit is a sign, and none is a point. -/
theorem ne_of_isDigit {c other : Char} (digit : c.isDigit = true)
    (foreign : other.isDigit = false) : c ≠ other := by
  rintro rfl
  rw [digit] at foreign
  cases foreign

/-- Digits by themselves have no sign in front. -/
theorem splitSign_of_isDigits {digits : List Char} (ok : IsDigits digits) :
    IntegerText.splitSign digits = (false, digits) := by
  obtain ⟨c, rest, rfl⟩ := List.exists_cons_of_ne_nil ok.nonempty
  have digit := ok.isDigit c List.mem_cons_self
  unfold IntegerText.splitSign
  split
  · next equal => exact absurd (List.cons.inj equal).1 (ne_of_isDigit digit (by decide))
  · next equal => exact absurd (List.cons.inj equal).1 (ne_of_isDigit digit (by decide))
  · rfl

/-- **Taking a text apart follows the grammar of numerals.** -/
theorem ofChars?_eq_some_iff (characters digits : List Char) (value : Int) :
    (∃ text, IntegerText.ofChars? characters = some text ∧ text.digits = digits ∧
      text.value = value) ↔ Numeral characters digits value := by
  constructor
  · rintro ⟨text, parsed, rfl, rfl⟩
    unfold IntegerText.ofChars? IntegerText.splitSign at parsed
    split at parsed
    next negative tail split =>
      split at parsed
      · next ok =>
        have isDigits := (isDigits_iff _).mpr ok
        cases parsed
        split at split <;> cases split
        · exact .plus isDigits
        · exact .minus isDigits
        · exact .plain isDigits
      · cases parsed
  · rintro (⟨ok⟩ | ⟨ok⟩ | ⟨ok⟩)
    · refine ⟨⟨false, _⟩, ?_, rfl, rfl⟩
      rw [IntegerText.ofChars?, splitSign_of_isDigits ok]
      exact if_pos ((isDigits_iff _).mp ok)
    · exact ⟨⟨false, _⟩, if_pos ((isDigits_iff _).mp ok), rfl, rfl⟩
    · exact ⟨⟨true, _⟩, if_pos ((isDigits_iff _).mp ok), rfl, rfl⟩

/-- **A text is read as an integer exactly if it is a numeral under the limit.** -/
theorem readInteger_eq_ok_iff (characters : List Char) (value : Int) :
    readInteger (String.ofList characters) = .ok value ↔
      ∃ digits, Numeral characters digits value ∧ digits.length ≤ digitLimit := by
  simp only [← ofChars?_eq_some_iff, readInteger, IntegerText.ofText?, String.toList_ofList]
  cases IntegerText.ofChars? characters with
  | none => simp
  | some text =>
    by_cases long : digitLimit < text.digits.length
    · simp only [long, if_true, Option.some.injEq, reduceCtorEq, false_iff]
      rintro ⟨digits, ⟨_, rfl, rfl, _⟩, short⟩
      exact absurd long (Nat.not_lt.mpr short)
    · simp only [long, if_false, Except.ok.injEq, Option.some.injEq]
      constructor
      · rintro rfl
        exact ⟨text.digits, ⟨text, rfl, rfl, rfl⟩, Nat.not_lt.mp long⟩
      · rintro ⟨digits, ⟨_, rfl, _, equal⟩, _⟩
        exact equal

/-- A text is too long to be read exactly if it is a numeral beyond the limit. -/
theorem readInteger_eq_tooLong_iff (characters : List Char) (count : Nat) :
    readInteger (String.ofList characters) = .error (.tooLong count) ↔
      ∃ digits value, Numeral characters digits value ∧ digits.length = count ∧
        digitLimit < count := by
  simp only [← ofChars?_eq_some_iff, readInteger, IntegerText.ofText?, String.toList_ofList]
  cases IntegerText.ofChars? characters with
  | none => simp
  | some text =>
    by_cases long : digitLimit < text.digits.length
    · simp only [long, if_true, Except.error.injEq, IntegerFault.tooLong.injEq, Option.some.injEq]
      constructor
      · rintro rfl
        exact ⟨text.digits, text.value, ⟨text, rfl, rfl, rfl⟩, rfl, long⟩
      · rintro ⟨digits, value, ⟨_, rfl, rfl, _⟩, equal, _⟩
        exact equal
    · simp only [long, if_false, Option.some.injEq, reduceCtorEq, false_iff]
      rintro ⟨digits, value, ⟨_, rfl, rfl, _⟩, rfl, beyond⟩
      exact long beyond

/-- A numeral has at least one character. -/
theorem Numeral.ne_nil {characters digits : List Char} {value : Int}
    (numeral : Numeral characters digits value) : characters ≠ [] := by
  rcases numeral with ⟨ok⟩ | ⟨ok⟩ | ⟨ok⟩
  · exact ok.nonempty
  · exact List.cons_ne_nil _ _
  · exact List.cons_ne_nil _ _

/-- The digits of a numeral are no more than its characters. -/
theorem Numeral.length_digits_le {characters digits : List Char} {value : Int}
    (numeral : Numeral characters digits value) : digits.length ≤ characters.length := by
  rcases numeral with ⟨ok⟩ | ⟨ok⟩ | ⟨ok⟩
  · exact Nat.le_refl _
  · exact Nat.le_succ _
  · exact Nat.le_succ _

/-- There is nothing but digits and signs in a numeral. -/
theorem Numeral.notMem {characters digits : List Char} {value : Int}
    (numeral : Numeral characters digits value) {c : Char} (noDigit : c.isDigit = false)
    (noSign : c ≠ '+' ∧ c ≠ '-') : c ∉ characters := by
  have apart {digits : List Char} (ok : IsDigits digits) : c ∉ digits := fun member =>
    ne_of_isDigit (ok.isDigit _ member) noDigit rfl
  rcases numeral with ⟨ok⟩ | ⟨ok⟩ | ⟨ok⟩
  · exact apart ok
  · simpa [noSign.1] using apart ok
  · simpa [noSign.2] using apart ok

theorem Numeral.point_notMem {characters digits : List Char} {value : Int}
    (numeral : Numeral characters digits value) : '.' ∉ characters :=
  numeral.notMem (by decide) (by decide)

/-! ### Writing -/

/-- The digits of an integer are a numeral for it. -/
theorem numeral_integerChars (number : Int) :
    Numeral (integerChars number) (Nat.toDigits 10 number.natAbs) number := by
  have ok := isDigits_toDigits number.natAbs
  unfold integerChars
  split
  · next negative =>
    have numeral := Numeral.minus ok
    rwa [Nat.ofDigitChars_ten_toDigits, show -((number.natAbs : Nat) : Int) = number by omega]
      at numeral
  · next nonnegative =>
    have numeral := Numeral.plain ok
    rwa [Nat.ofDigitChars_ten_toDigits, show ((number.natAbs : Nat) : Int) = number by omega]
      at numeral

/-- An integer with no more digits than are read. -/
def IsWritable (number : Int) : Prop := (Nat.toDigits 10 number.natAbs).length ≤ digitLimit

/-- **An integer that is not too big is read back from its digits.** -/
theorem readInteger_integerChars {number : Int} (small : IsWritable number) :
    readInteger (String.ofList (integerChars number)) = .ok number :=
  (readInteger_eq_ok_iff _ _).mpr ⟨_, numeral_integerChars number, small⟩

/-- **An integer that is not too big is written with its digits.** -/
theorem writeInteger_eq_some {number : Int} (small : IsWritable number) :
    writeInteger number = some (String.ofList (integerChars number)) := by
  have inside : number.natAbs < Nat.pow 10 digitLimit := by
    rw [Nat.pow_eq]
    exact (Nat.length_toDigits_le_iff (by decide) (by decide)).mp small
  unfold writeInteger
  split
  · rfl
  · next big => exact absurd inside big

/-- Each further digit multiplies the bound on a number by ten. -/
theorem ofDigitChars_lt {digits : List Char} (isDigit : ∀ c ∈ digits, c.isDigit = true)
    (start : Nat) : Nat.ofDigitChars 10 digits start < (start + 1) * Nat.pow 10 digits.length := by
  induction digits generalizing start with
  | nil => simp
  | cons c rest ih =>
    have digit : c.toNat - '0'.toNat < 10 := by
      have range := Char.isDigit_iff_toNat.mp (isDigit c List.mem_cons_self)
      have nine : '9'.toNat = '0'.toNat + 9 := by decide
      omega
    calc Nat.ofDigitChars 10 (c :: rest) start
        = Nat.ofDigitChars 10 rest (10 * start + (c.toNat - '0'.toNat)) := Nat.ofDigitChars_cons
      _ < (10 * start + (c.toNat - '0'.toNat) + 1) * Nat.pow 10 rest.length :=
        ih (fun d member => isDigit d (List.mem_cons_of_mem c member)) _
      _ ≤ ((start + 1) * 10) * Nat.pow 10 rest.length := Nat.mul_le_mul_right _ (by omega)
      _ = (start + 1) * Nat.pow 10 (c :: rest).length := by
        rw [List.length_cons, Nat.pow_eq, Nat.pow_eq, Nat.pow_succ', Nat.mul_assoc]

/-- **An integer is written with no more digits than it was read from.** -/
theorem Numeral.length_toDigits_le {characters digits : List Char} {value : Int}
    (numeral : Numeral characters digits value) :
    (Nat.toDigits 10 value.natAbs).length ≤ digits.length := by
  have bound (ok : IsDigits digits) :
      (Nat.toDigits 10 (Nat.ofDigitChars 10 digits 0)).length ≤ digits.length := by
    refine (Nat.length_toDigits_le_iff (by decide) (List.length_pos_iff.mpr ok.nonempty)).mpr ?_
    simpa using ofDigitChars_lt ok.isDigit 0
  rcases numeral with ⟨ok⟩ | ⟨ok⟩ | ⟨ok⟩
  · rw [Int.natAbs_natCast]
    exact bound ok
  · rw [Int.natAbs_natCast]
    exact bound ok
  · rw [Int.natAbs_neg, Int.natAbs_natCast]
    exact bound ok

theorem isWritable_of_readInteger {token : String} {value : Int}
    (read : readInteger token = .ok value) : IsWritable value := by
  rw [← String.ofList_toList (s := token), readInteger_eq_ok_iff] at read
  obtain ⟨digits, numeral, short⟩ := read
  exact Nat.le_trans numeral.length_toDigits_le short

/-- A word is not too big to be written. -/
theorem Word.isWritable (word : Word) : IsWritable word.value := by
  have := word.least_le
  have := word.lt_bound
  have digits : (Nat.toDigits 10 word.value.natAbs).length ≤ 19 :=
    (Nat.length_toDigits_le_iff (by decide) (by decide)).mpr (by omega)
  exact Nat.le_trans digits (by decide)

/-- A word is the word of its value. -/
theorem Word.ofInt?_value (word : Word) : Word.ofInt? word.value = some word :=
  dif_pos ⟨word.least_le, word.lt_bound⟩

theorem Word.value_of_ofInt? {number : Int} {word : Word} (found : Word.ofInt? number = some word) :
    word.value = number := by
  unfold Word.ofInt? at found
  split at found
  · cases found
    rfl
  · cases found

end Argline
