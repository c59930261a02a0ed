/-
**The text of an array has one reading.**

An array is written in brackets, its items with commas between them, and nothing in an item is escaped.
The text can be taken apart all the same: the text of an item ends in front of the comma or the bracket
that stands behind it, and it begins with no closing bracket, so that an empty array has a text of its
own. Single values have these two properties if their texts hold no comma and no bracket; arrays have
them if their items do, whatever is inside (`Value.Separates.array`).

* `Value.Fills`: the values of a type, arrays of no items included;
* `Value.IsText`: the text of a value that fills a type;
* `Value.Separates`: texts that end where they end, whatever stands behind them;
* `Value.format_injective`: two values of a type with the same text are the same.
-/

import Argline.Proofs.Fronts
import Argline.Proofs.Joined
import Argline.Proofs.Value.Spelling
import Argline.Proofs.Value.Writing

namespace Argline

/-- The single types whose texts hold no comma and no bracket and are not empty. -/
def Scalar.separable : List Scalar := [.int, .bigInt, .bool, .pauli, .outcome, .range]

namespace Value

/-- The values of a type, as far as they can be written. Arrays may have any number of items. -/
inductive Fills : Value → Ty → Prop
  | single {kind : Scalar} {value : Value} (typed : value.HasType (.scalar kind)) :
    Fills value (.scalar kind)
  | array {element : Ty} {items : List Value} (each : ∀ item ∈ items, Fills item element) :
    Fills (.list items) (.array element)

/-- The text of a value that fills a type. -/
def IsText (type : Ty) (value : Value) (text : List Char) : Prop :=
  value.Fills type ∧ format type value = .ok (String.ofList text)

/-- What may stand behind an item: nothing, or a comma, or a closing bracket. -/
def EndsItem (rest : List Char) : Prop := ∀ c ∈ rest.head?, c = ',' ∨ c = ']'

/-- Texts that end where they end: what stands behind two of them decides neither which they are nor
which values they are of. None of them begins with a closing bracket. -/
structure Separates (written : Value → List Char → Prop) : Prop where
  opens : ∀ value text, written value text → ∃ c rest, text = c :: rest ∧ c ≠ ']'
  ends : ∀ value other text otherText rest otherRest, written value text →
    written other otherText → EndsItem rest → EndsItem otherRest →
    text ++ rest = otherText ++ otherRest → value = other ∧ rest = otherRest

/-! ### Single values -/

/-- The part in front of what ends an item. -/
theorem takeWhile_of_endsItem {text rest : List Char} (free : ∀ c ∈ text, c ≠ ',' ∧ c ≠ ']')
    (ends : EndsItem rest) :
    (text ++ rest).takeWhile (fun c => c ≠ ',' ∧ c ≠ ']') = text := by
  refine takeWhile_append_of_stops (by simpa using free) fun c first => ?_
  have ended := ends c first
  exact decide_eq_false (by tauto)

/-- A single value of a separable type has a text from which it can be read, and in which there is no
comma and no bracket. -/
theorem exists_text {kind : Scalar} (separable : kind ∈ Scalar.separable) {value : Value}
    (typed : value.HasType (.scalar kind)) :
    ∃ text : List Char, format (.scalar kind) value = .ok (String.ofList text) ∧
      ofToken (.scalar kind) (String.ofList text) = .ok value ∧ text ≠ [] ∧
      ∀ c ∈ text, c ≠ ',' ∧ c ≠ ']' := by
  obtain ⟨text, written, read⟩ := exists_token typed
  have free {number : Int} {c : Char} (member : c ∈ integerChars number) : c ≠ ',' ∧ c ≠ ']' := by
    constructor <;> rintro rfl <;>
      exact (numeral_integerChars number).notMem (by decide) (by decide) member
  refine ⟨text.toList, ?_⟩
  rw [String.ofList_toList]
  cases typed with
  | int word =>
    refine ⟨written, read, ?_⟩
    rw [token_int] at written
    cases written
    exact ⟨by simpa using (numeral_integerChars word.value).ne_nil, fun c => by simpa using free⟩
  | @bigInt number small =>
    refine ⟨written, read, ?_⟩
    rw [token_bigInt small] at written
    cases written
    exact ⟨by simpa using (numeral_integerChars number).ne_nil, fun c => by simpa using free⟩
  | bool truth =>
    refine ⟨written, read, ?_⟩
    cases truth <;> cases written <;> simp [boolText]
  | pauli operator =>
    refine ⟨written, read, ?_⟩
    cases operator <;> cases written <;> simp [Pauli.name]
  | outcome bit =>
    refine ⟨written, read, ?_⟩
    cases bit <;> cases written <;> simp [Outcome.name]
  | range interval =>
    refine ⟨written, read, ?_⟩
    cases written
    refine ⟨?_, fun c member => ?_⟩
    · simp [Range.text, Word.text]
    · simp only [Range.text, Word.text, String.toList_append, String.toList_ofList,
        List.mem_append] at member
      have point (inside : c ∈ "..".toList) : c ≠ ',' ∧ c ≠ ']' := by
        obtain rfl : c = '.' := by simpa using inside
        decide
      rcases member with (((first | inside) | second) | inside) | third
      · exact free first
      · exact point inside
      · exact free second
      · exact point inside
      · exact free third
  | _ => exact absurd separable (by decide)

theorem separates_scalar {kind : Scalar} (separable : kind ∈ Scalar.separable) :
    Separates (IsText (.scalar kind)) where
  opens := by
    rintro value text ⟨⟨typed⟩, written⟩
    obtain ⟨content, same, _, nonempty, free⟩ := exists_text separable typed
    obtain rfl : text = content := String.ofList_injective (Except.ok.inj (written.symm.trans same))
    obtain ⟨c, rest, rfl⟩ := List.exists_cons_of_ne_nil nonempty
    exact ⟨c, rest, rfl, (free c List.mem_cons_self).2⟩
  ends := by
    rintro value other text otherText rest otherRest ⟨⟨typed⟩, written⟩ ⟨⟨otherTyped⟩, otherWritten⟩
      ends otherEnds equal
    obtain ⟨content, same, read, _, free⟩ := exists_text separable typed
    obtain ⟨otherContent, otherSame, otherRead, _, otherFree⟩ := exists_text separable otherTyped
    obtain rfl : text = content := String.ofList_injective (Except.ok.inj (written.symm.trans same))
    obtain rfl : otherText = otherContent :=
      String.ofList_injective (Except.ok.inj (otherWritten.symm.trans otherSame))
    have front := congrArg (List.takeWhile fun c => c ≠ ',' ∧ c ≠ ']') equal
    rw [takeWhile_of_endsItem free ends, takeWhile_of_endsItem otherFree otherEnds] at front
    subst front
    exact ⟨Except.ok.inj (read.symm.trans otherRead), List.append_cancel_left equal⟩

/-! ### Arrays -/

variable {written : Value → List Char → Prop}

/-- The items behind the first one, each with a comma in front, up to the closing bracket. -/
def itemsBehind (texts : List (List Char)) (rest : List Char) : List Char :=
  texts.flatMap (',' :: ·) ++ ']' :: rest

theorem endsItem_itemsBehind (texts : List (List Char)) (rest : List Char) :
    EndsItem (itemsBehind texts rest) := by
  cases texts with
  | nil =>
    rintro c ⟨⟩
    exact .inr rfl
  | cons text texts =>
    rintro c ⟨⟩
    exact .inl rfl

/-- The items behind the first one are read off one after another. -/
theorem Separates.itemsBehind (separates : Separates written) {items others : List Value}
    {texts otherTexts : List (List Char)} {rest otherRest : List Char}
    (each : List.Forall₂ written items texts) (eachOther : List.Forall₂ written others otherTexts)
    (equal : itemsBehind texts rest = itemsBehind otherTexts otherRest) :
    items = others ∧ rest = otherRest := by
  induction each generalizing others otherTexts with
  | nil =>
    cases eachOther with
    | nil => exact ⟨rfl, (List.cons.inj equal).2⟩
    | cons => exact absurd (List.cons.inj equal).1 (by decide)
  | @cons item text items texts first _ ih =>
    cases eachOther with
    | nil => exact absurd (List.cons.inj equal).1 (by decide)
    | @cons other otherText others otherTexts firstOther eachOther =>
      have behind : text ++ Value.itemsBehind texts rest =
          otherText ++ Value.itemsBehind otherTexts otherRest := by
        simpa [Value.itemsBehind] using equal
      obtain ⟨rfl, equal⟩ := separates.ends _ _ _ _ _ _ first firstOther
        (endsItem_itemsBehind _ _) (endsItem_itemsBehind _ _) behind
      obtain ⟨rfl, equal⟩ := ih eachOther equal
      exact ⟨rfl, equal⟩

/-- The text of an array, from the texts of its items. -/
def arrayText (texts : List (List Char)) : List Char := '[' :: [','].intercalate texts ++ [']']

theorem arrayText_cons_append (text : List Char) (texts : List (List Char)) (rest : List Char) :
    arrayText (text :: texts) ++ rest = '[' :: (text ++ itemsBehind texts rest) := by
  simp [arrayText, itemsBehind, intercalate_cons_eq]

/-- **Arrays of items whose texts end where they end have such texts too.** -/
theorem Separates.array (separates : Separates written) :
    Separates fun value text => ∃ items texts, value = .list items ∧
      List.Forall₂ written items texts ∧ text = arrayText texts where
  opens := by
    rintro _ _ ⟨items, texts, rfl, _, rfl⟩
    exact ⟨'[', _, rfl, by decide⟩
  ends := by
    rintro _ _ _ _ rest otherRest ⟨items, texts, rfl, each, rfl⟩
      ⟨others, otherTexts, rfl, eachOther, rfl⟩ _ _ equal
    have separated : items = others ∧ rest = otherRest := by
      cases each with
      | nil =>
        cases eachOther with
        | nil => exact ⟨rfl, List.append_cancel_left equal⟩
        | cons firstOther =>
          obtain ⟨c, tail, rfl, opens⟩ := separates.opens _ _ firstOther
          rw [arrayText_cons_append] at equal
          exact absurd (List.cons.inj (List.cons.inj equal).2).1.symm opens
      | cons first each =>
        cases eachOther with
        | nil =>
          obtain ⟨c, tail, rfl, opens⟩ := separates.opens _ _ first
          rw [arrayText_cons_append] at equal
          exact absurd (List.cons.inj (List.cons.inj equal).2).1 opens
        | cons firstOther eachOther =>
          rw [arrayText_cons_append, arrayText_cons_append] at equal
          obtain ⟨rfl, behind⟩ := separates.ends _ _ _ _ _ _ first firstOther
            (endsItem_itemsBehind _ _) (endsItem_itemsBehind _ _) (List.cons.inj equal).2
          obtain ⟨rfl, behind⟩ := separates.itemsBehind each eachOther behind
          exact ⟨rfl, behind⟩
    exact ⟨congrArg Value.list separated.1, separated.2⟩

/-! ### All types -/

/-- The text of an array is put together from those of its items. -/
theorem isText_array_iff (element : Ty) (value : Value) (text : List Char) :
    IsText (.array element) value text ↔ ∃ items texts, value = .list items ∧
      List.Forall₂ (IsText element) items texts ∧ text = arrayText texts := by
  have joins (texts : List (List Char)) :
      "[" ++ joined "," (texts.map String.ofList) ++ "]" = String.ofList (arrayText texts) := by
    rw [← String.toList_inj]
    simp [joined, arrayText, String.toList_intercalate, Function.comp_def]
  constructor
  · rintro ⟨fills, written⟩
    cases fills with
    | @array _ items each =>
      obtain ⟨strings, all, equal⟩ := map_eq_ok_iff.mp written
      obtain ⟨texts, rfl⟩ : ∃ texts : List (List Char), strings = texts.map String.ofList :=
        ⟨strings.map String.toList, by simp [Function.comp_def]⟩
      rw [joins] at equal
      refine ⟨items, texts, rfl, ?_, (String.ofList_injective equal).symm⟩
      have related := List.forall₂_map_right_iff.mp (mapM_eq_ok_iff.mp all)
      exact (List.forall₂_and_left _ _).mpr ⟨each, related⟩
  · rintro ⟨items, texts, rfl, related, rfl⟩
    obtain ⟨each, related⟩ := (List.forall₂_and_left _ _).mp related
    have all : items.mapM (format element) = .ok (texts.map String.ofList) :=
      mapM_eq_ok_iff.mpr (List.forall₂_map_right_iff.mpr related)
    exact ⟨.array each, map_eq_ok_iff.mpr ⟨_, all, joins texts⟩⟩

/-- Every value that fills a separable type has a text. -/
theorem exists_isText {type : Ty} {value : Value} (separable : type.innermost ∈ Scalar.separable)
    (fills : value.Fills type) : ∃ text, IsText type value text := by
  induction fills with
  | single typed =>
    obtain ⟨text, written, _⟩ := exists_text separable typed
    exact ⟨text, .single typed, written⟩
  | @array element items _ ih =>
    obtain ⟨texts, related⟩ := exists_forall₂ fun item member => ih item member separable
    exact ⟨_, (isText_array_iff _ _ _).mpr ⟨items, texts, rfl, related, rfl⟩⟩

/-- The texts of a type end where they end, by induction over its depth. -/
theorem separates_isText {type : Ty} (separable : type.innermost ∈ Scalar.separable) :
    Separates (IsText type) := by
  induction type with
  | scalar kind => exact separates_scalar separable
  | array element ih =>
    have same : IsText (.array element) = _ :=
      funext fun value => funext fun text => propext (isText_array_iff element value text)
    rw [same]
    exact (ih separable).array

/-- **The text of an array is unambiguous.** Every value of a type whose single values are integers,
truth values, operators, outcomes or ranges has a text, however deep the type and however long the
arrays, and no other value of the type has the same one. -/
theorem format_injective {type : Ty} (separable : type.innermost ∈ Scalar.separable)
    {value other : Value} (fills : value.Fills type) (fillsOther : other.Fills type) :
    (∃ text, format type value = .ok text) ∧
      (format type value = format type other → value = other) := by
  obtain ⟨text, isText⟩ := exists_isText separable fills
  refine ⟨⟨_, isText.2⟩, fun same => ?_⟩
  have isTextOther : IsText type other text := ⟨fillsOther, same ▸ isText.2⟩
  have ended : EndsItem [] := fun _ none => nomatch none
  exact ((separates_isText separable).ends _ _ _ _ _ _ isText isTextOther ended ended rfl).1

/-- Two arrays of arrays with the same single values in the same order. -/
theorem format_injective_nested :
    let type : Ty := .array (.array (.scalar .bigInt))
    let value : Value := .list [.list [], .list [.int 1, .int (-2)]]
    let other : Value := .list [.list [.int 1], .list [.int (-2)]]
    type.innermost ∈ Scalar.separable ∧ value.Fills type ∧ other.Fills type ∧
      format type value ≠ format type other := by
  intro type value other
  have small (number : Int) (short : IsWritable number) : (Value.int number).Fills (.scalar .bigInt) :=
    .single (.bigInt short)
  have one := small 1 (by unfold IsWritable; decide)
  have two := small (-2) (by unfold IsWritable; decide)
  have fills : value.Fills type := .array <| by
    simpa using ⟨Fills.array (by simp), Fills.array (by simpa using ⟨one, two⟩)⟩
  have fillsOther : other.Fills type := .array <| by
    simpa using ⟨Fills.array (by simpa using one), Fills.array (by simpa using two)⟩
  refine ⟨by decide, fills, fillsOther, fun same => ?_⟩
  have equal := (format_injective (by decide) fills fillsOther).2 same
  simp [value, other] at equal

end Value

end Argline
