/-
**Values written as tokens.**

* `Value.HasType`: the values of a type, as far as they can be written;
* `Value.token`, `Value.spell`: a value as a token, and as a list of tokens;
* `Value.exists_spell`: every value of a type that a parameter may have is spelled and read back;
* `Value.not_isOptionLike_of_spell`: no token of it begins like a flag, unless the type involves text.
-/

import Argline.Proofs.CommandLine.Marks
import Argline.Proofs.Range.Reading
import Argline.Proofs.Value.Tokens
import Argline.Schema.Build
import Argline.Value.Format

namespace Argline

namespace Value

/-- The values of a type, as far as they can be written: integers that are not too big, doubles that
are read back from their text, and lists with at least one item. -/
inductive HasType : Value → Ty → Prop
  | unit : HasType .unit (.scalar .unit)
  | int (word : Word) : HasType (.int word.value) (.scalar .int)
  | bigInt {number : Int} (small : IsWritable number) :
    HasType (.int number) (.scalar .bigInt)
  | double {number : Double} (exact : readDouble number.text = some number) :
    HasType (.double number) (.scalar .double)
  | bool (truth : Bool) : HasType (.bool truth) (.scalar .bool)
  | pauli (operator : Pauli) : HasType (.pauli operator) (.scalar .pauli)
  | outcome (bit : Outcome) : HasType (.outcome bit) (.scalar .outcome)
  | range (interval : Range) : HasType (.range interval) (.scalar .range)
  | text (content : String) : HasType (.text content) (.scalar .text)
  | array {element : Ty} {items : List Value} (nonempty : items ≠ [])
    (each : ∀ item ∈ items, HasType item element) : HasType (.list items) (.array element)

/-- A value of a type as one token: its canonical text, but for the unit value. -/
def token : Ty → Value → Except (Halt Mismatch) String
  | .scalar .unit, _ => .ok unitLiteral
  | type, value => value.format type

/-- A value of a type as tokens: one for each item of an array, and else one. -/
def spell : Ty → Value → Except (Halt Mismatch) (List String)
  | .array element, .list items => items.mapM (token element)
  | type, value => (token type value).map fun text => [text]

/-! ### Reading back -/

/-- An integer that is not too big has a text. -/
theorem formatInt_of_small {number : Int} (small : IsWritable number) :
    formatInt number = .ok (String.ofList (integerChars number)) := by
  unfold formatInt
  rw [writeInteger_eq_some small]

theorem token_int (word : Word) :
    token (.scalar .int) (.int word.value) = .ok (String.ofList (integerChars word.value)) := by
  have inside : (Word.ofInt? word.value).isSome = true := by
    rw [Word.ofInt?_value, Option.isSome_some]
  have written : token (.scalar .int) (.int word.value) =
      if (Word.ofInt? word.value).isSome then formatInt word.value
      else .error (misfit (.scalar .int) (.int word.value)) := rfl
  rw [written, if_pos inside, formatInt_of_small word.isWritable]

theorem token_bigInt {number : Int} (small : IsWritable number) :
    token (.scalar .bigInt) (.int number) = .ok (String.ofList (integerChars number)) := by
  have written : token (.scalar .bigInt) (.int number) = formatInt number := rfl
  rw [written, formatInt_of_small small]

theorem integerOfToken_integerChars (label : String) {number : Int}
    (small : IsWritable number) :
    integerOfToken label (String.ofList (integerChars number)) = .ok number := by
  rw [integerOfToken, readInteger_integerChars small]

/-- **The token of a single value is read back as the value.** -/
theorem exists_token {kind : Scalar} {value : Value} (typed : value.HasType (.scalar kind)) :
    ∃ text, token (.scalar kind) value = .ok text ∧ ofToken (.scalar kind) text = .ok value := by
  cases typed with
  | unit => exact ⟨unitLiteral, rfl, rfl⟩
  | int word =>
    refine ⟨_, token_int word, ?_⟩
    simp only [ofToken, scalarOfToken, wordOfToken,
      integerOfToken_integerChars _ word.isWritable, bind, Except.bind, Word.ofInt?_value]
    rfl
  | @bigInt number small =>
    refine ⟨_, token_bigInt small, ?_⟩
    simp only [ofToken, scalarOfToken, integerOfToken_integerChars _ small]
    rfl
  | @double number exact =>
    refine ⟨number.text, rfl, ?_⟩
    rw [ofToken, scalarOfToken, exact]
    rfl
  | bool truth => cases truth <;> exact ⟨_, rfl, rfl⟩
  | pauli operator => cases operator <;> exact ⟨_, rfl, rfl⟩
  | outcome bit => cases bit <;> exact ⟨_, rfl, rfl⟩
  | range interval =>
    refine ⟨interval.text, rfl, ?_⟩
    rw [ofToken, scalarOfToken, Range.ofTokens_text]
    rfl
  | text content => exact ⟨content, rfl, rfl⟩

/-- What is read from one token is read from it as a list. -/
theorem ofTokens_singleton {kind : Scalar} {text : String} {value : Value}
    (read : ofToken (.scalar kind) text = .ok value) : ofTokens (.scalar kind) [text] = .ok value := by
  cases kind with
  | bool =>
    refine (ofTokens_bool _ _).mpr (.inr ?_)
    rw [ofToken, scalarOfToken] at read
    cases found : boolOfToken? text with
    | none => rw [found] at read; cases read
    | some truth =>
      rw [found] at read
      cases read
      exact ⟨text, truth, rfl, found, rfl⟩
  | range =>
    obtain ⟨range, literal, rfl⟩ := map_eq_ok_iff.mp read
    exact (ofTokens_range _ _).mpr ⟨range, literal, rfl⟩
  | _ => exact (ofTokens_of_single rfl _ _).mpr ⟨text, rfl, read⟩

/-- **Every value is spelled and read back, unless it is an array of arrays.** -/
theorem exists_spell {type : Ty} {value : Value} (typed : value.HasType type)
    (flat : type.isNested = false) :
    ∃ tokens, spell type value = .ok tokens ∧ ofTokens type tokens = .ok value := by
  cases type with
  | scalar kind =>
    obtain ⟨text, written, read⟩ := exists_token typed
    refine ⟨[text], ?_, ofTokens_singleton read⟩
    rw [spell, written]
    · rfl
    · rintro element items ⟨⟩
  | array element =>
    cases typed with
    | @array _ items nonempty each =>
      cases element with
      | array inner => cases flat
      | scalar kind =>
        have tokens : ∃ texts, List.Forall₂ (fun item text => token (.scalar kind) item = .ok text ∧
            ofToken (.scalar kind) text = .ok item) items texts :=
          exists_forall₂ fun item member => exists_token (each item member)
        obtain ⟨texts, related⟩ := tokens
        refine ⟨texts, mapM_eq_ok_iff.mpr (related.imp fun _ _ both => both.1), ?_⟩
        have read := mapM_eq_ok_iff.mpr (related.flip.imp fun _ _ both => both.2)
        refine (ofTokens_array _ _ _).mpr ⟨?_, items, read, rfl⟩
        rintro rfl
        exact nonempty (List.forall₂_nil_right_iff.mp related)

end Value

/-! ### Tokens that begin like a flag -/

/-- No numeral begins like a flag, whatever follows it. -/
theorem Numeral.not_isOptionLike {characters digits : List Char} {value : Int}
    (numeral : Numeral characters digits value) {token : String} (rest : List Char)
    (text : token.toList = characters ++ rest) : ¬ IsOptionLike token := by
  rcases numeral with ⟨ok⟩ | ⟨ok⟩ | ⟨ok⟩
  · obtain ⟨d, more, rfl⟩ := List.exists_cons_of_ne_nil ok.nonempty
    have digit := ok.isDigit d List.mem_cons_self
    exact not_isOptionLike_of_head text (ne_of_isDigit digit (by decide))
  · exact not_isOptionLike_of_head text (by decide)
  · obtain ⟨d, more, rfl⟩ := List.exists_cons_of_ne_nil ok.nonempty
    have digit := ok.isDigit d List.mem_cons_self
    rintro ⟨c, others, shape, code⟩
    have same : d = c := (List.cons.inj (List.cons.inj (text.symm.trans shape)).2).1
    rw [same, isDigit_eq_false code] at digit
    cases digit

/-- A decimal text does not begin like a flag. -/
theorem DecimalText.ofText?_of_isOptionLike {token : String} (like : IsOptionLike token) :
    DecimalText.ofText? token = none := by
  obtain ⟨c, rest, shape, code⟩ := like
  have noDigit := isDigit_eq_false code
  have noPoint : c ≠ '.' := by
    rintro rfl
    exact absurd code (by decide)
  have split : IntegerText.splitSign token.toList = (true, c :: rest) := by
    rw [shape]
    rfl
  have tail : DecimalText.splitFraction (c :: rest) = ([], c :: rest) := by
    unfold DecimalText.splitFraction
    split
    · next equal => exact absurd (List.cons.inj equal).1 noPoint
    · rfl
  simp only [DecimalText.ofText?, split, DecimalText.splitDigits, List.takeWhile_cons, noDigit,
    Bool.false_eq_true, if_false, List.dropWhile_cons, tail, and_self, if_true]

/-- The special values are no finite ones. -/
theorem ne_finite_of_specialDoubles {name : String} {double : Double}
    (special : specialDoubles.lookup name = some double) (negative : Bool) (magnitude : Magnitude) :
    double ≠ .finite negative magnitude := by
  have member := mem_of_lookup_eq_some special
  simp only [specialDoubles, List.mem_cons, List.not_mem_nil, or_false, Prod.mk.injEq] at member
  rcases member with ⟨_, rfl⟩ | ⟨_, rfl⟩ | ⟨_, rfl⟩ | ⟨_, rfl⟩ <;> rintro ⟨⟩

/-- The text of a double that is read back does not begin like a flag. -/
theorem Double.not_isOptionLike {number : Double} (exact : readDouble number.text = some number) :
    ¬ IsOptionLike number.text := by
  intro like
  cases number with
  | nan => exact not_isOptionLike_of_head rfl (by decide) like
  | infinite negative =>
    cases negative with
    | false => exact not_isOptionLike_of_head rfl (by decide) like
    | true =>
      obtain ⟨c, rest, shape, code⟩ := like
      obtain ⟨rfl, _⟩ := List.cons.inj (List.cons.inj shape).2
      exact absurd code (by decide)
  | finite negative magnitude =>
    unfold readDouble at exact
    split at exact
    · next special =>
      cases exact
      exact ne_finite_of_specialDoubles special negative magnitude rfl
    · rw [DecimalText.ofText?_of_isOptionLike like] at exact
      cases exact

namespace Ty

/-- Does a type involve text? -/
def involvesText : Ty → Bool
  | .scalar kind => kind = .text
  | .array element => element.involvesText

end Ty

namespace Value

/-- **The token of a single value does not begin like a flag, unless it is a text.** -/
theorem not_isOptionLike_of_token {kind : Scalar} {value : Value} {text : String}
    (typed : value.HasType (.scalar kind)) (noText : (Ty.scalar kind).involvesText = false)
    (written : token (.scalar kind) value = .ok text) : ¬ IsOptionLike text := by
  cases typed with
  | unit =>
    cases written
    exact not_isOptionLike_of_head rfl (by decide)
  | int word =>
    rw [token_int] at written
    cases written
    exact (numeral_integerChars word.value).not_isOptionLike [] (by simp)
  | @bigInt number small =>
    rw [token_bigInt small] at written
    cases written
    exact (numeral_integerChars number).not_isOptionLike [] (by simp)
  | double exact =>
    cases written
    exact Double.not_isOptionLike exact
  | bool truth =>
    cases truth <;> cases written <;> exact not_isOptionLike_of_head rfl (by decide)
  | pauli operator =>
    cases operator <;> cases written <;> exact not_isOptionLike_of_head rfl (by decide)
  | outcome bit =>
    cases bit <;> cases written <;> exact not_isOptionLike_of_head rfl (by decide)
  | range interval =>
    cases written
    refine (numeral_integerChars interval.start.value).not_isOptionLike
      (("..".toList ++ interval.step.text.toList) ++ ("..".toList ++ interval.stop.text.toList)) ?_
    simp [Range.text, Word.text]
  | text content => cases noText

/-- **No token of a value begins like a flag, unless its type involves text.** -/
theorem not_isOptionLike_of_spell {type : Ty} {value : Value} {tokens : List String}
    (typed : value.HasType type) (flat : type.isNested = false) (noText : type.involvesText = false)
    (written : spell type value = .ok tokens) :
    ∀ token ∈ tokens, ¬ IsOptionLike token := by
  cases type with
  | scalar kind =>
    obtain ⟨text, writtenText, rfl⟩ := map_eq_ok_iff.mp written
    intro other member
    obtain rfl := List.mem_singleton.mp member
    exact not_isOptionLike_of_token typed noText writtenText
  | array element =>
    cases typed with
    | @array _ items nonempty each =>
      cases element with
      | array inner => cases flat
      | scalar kind =>
        have related := (List.forall₂_and_left _ _).mpr ⟨each, mapM_eq_ok_iff.mp written⟩
        refine forall_mem_of_forall₂ related.flip ?_
        rintro text item ⟨typedItem, writtenItem⟩
        exact not_isOptionLike_of_token typedItem noText writtenItem

end Value

end Argline
