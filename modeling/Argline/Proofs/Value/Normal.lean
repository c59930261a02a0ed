/-
**What is read is read again from its canonical spelling.**

* `Value.hasType_of_ofTokens`: what is read as a type is a value of it;
* `Value.exists_format`: every value of a type has a canonical text;
* `Value.exists_ofTokens_iff`: the values that tokens are read as are those of the type;
* `Value.reading_normalises`: a value that was read has a text and is read again from its spelling.

Reading the text of a double may round, so types that involve doubles are left out.
-/

import Argline.Proofs.Value.Spelling
import Argline.Proofs.Value.Writing

namespace Argline

namespace Value

/-! ### What is read -/

theorem isWritable_of_integerOfToken {label token : String} {number : Int}
    (read : integerOfToken label token = .ok number) : IsWritable number := by
  unfold integerOfToken at read
  split at read
  · next found =>
    cases read
    exact isWritable_of_readInteger found
  · cases read

theorem eq_some_of_orUnreadable {expected : Unreadable} {token : String} {found : Option Value}
    {value : Value} (read : orUnreadable expected token found = .ok value) : found = some value := by
  cases found with
  | none => cases read
  | some other =>
    cases read
    rfl

/-- What is read from one token is a value of its type, unless it is a double. -/
theorem hasType_of_ofToken {kind : Scalar} (exact : kind ≠ .double) {token : String} {value : Value}
    (read : ofToken (.scalar kind) token = .ok value) : value.HasType (.scalar kind) := by
  rw [ofToken] at read
  cases kind with
  | double => exact absurd rfl exact
  | unit =>
    have found := eq_some_of_orUnreadable read
    split at found <;> cases found
    exact .unit
  | int =>
    obtain ⟨word, _, rfl⟩ := map_eq_ok_iff.mp read
    exact .int word
  | bigInt =>
    obtain ⟨number, found, rfl⟩ := map_eq_ok_iff.mp read
    exact .bigInt (isWritable_of_integerOfToken found)
  | bool =>
    obtain ⟨truth, _, rfl⟩ := Option.map_eq_some_iff.mp (eq_some_of_orUnreadable read)
    exact .bool truth
  | pauli =>
    obtain ⟨operator, _, rfl⟩ := Option.map_eq_some_iff.mp (eq_some_of_orUnreadable read)
    exact .pauli operator
  | outcome =>
    obtain ⟨bit, _, rfl⟩ := Option.map_eq_some_iff.mp (eq_some_of_orUnreadable read)
    exact .outcome bit
  | range =>
    obtain ⟨interval, _, rfl⟩ := map_eq_ok_iff.mp read
    exact .range interval
  | text =>
    cases read
    exact .text token

/-- What is read from a list of tokens is a value of its type. -/
theorem hasType_of_ofTokens_scalar {kind : Scalar} (exact : kind ≠ .double) {tokens : List String}
    {value : Value} (read : ofTokens (.scalar kind) tokens = .ok value) :
    value.HasType (.scalar kind) := by
  cases kind with
  | bool =>
    rcases (ofTokens_bool _ _).mp read with ⟨_, rfl⟩ | ⟨_, truth, _, _, rfl⟩
    · exact .bool true
    · exact .bool truth
  | range =>
    obtain ⟨interval, _, rfl⟩ := (ofTokens_range _ _).mp read
    exact .range interval
  | _ =>
    obtain ⟨token, _, found⟩ := (ofTokens_of_single rfl _ _).mp read
    exact hasType_of_ofToken exact found

/-- **What is read as a type is a value of the type.** -/
theorem hasType_of_ofTokens {type : Ty} (flat : type.isNested = false)
    (exact : type.innermost ≠ .double) {tokens : List String} {value : Value}
    (read : ofTokens type tokens = .ok value) : value.HasType type := by
  cases type with
  | scalar kind => exact hasType_of_ofTokens_scalar exact read
  | array element =>
    cases element with
    | array inner => cases flat
    | scalar kind =>
      obtain ⟨nonempty, items, found, rfl⟩ := (ofTokens_array _ _ _).mp read
      have related := mapM_eq_ok_iff.mp found
      refine .array ?_ ?_
      · rintro rfl
        exact nonempty (List.forall₂_nil_right_iff.mp related)
      · exact forall_mem_of_forall₂ related.flip fun _ _ readItem => hasType_of_ofToken exact readItem

/-- **The values that tokens are read as are the values of the type.** -/
theorem exists_ofTokens_iff {type : Ty} (flat : type.isNested = false)
    (exact : type.innermost ≠ .double) (value : Value) :
    (∃ tokens, ofTokens type tokens = .ok value) ↔ value.HasType type := by
  constructor
  · rintro ⟨tokens, read⟩
    exact hasType_of_ofTokens flat exact read
  · intro typed
    obtain ⟨tokens, _, read⟩ := exists_spell typed flat
    exact ⟨tokens, read⟩

/-! ### What is written -/

/-- **Every value of a type has a canonical text.** -/
theorem exists_format {type : Ty} {value : Value} (typed : value.HasType type) :
    ∃ text, format type value = .ok text := by
  induction typed with
  | int word =>
    obtain ⟨text, written, _⟩ := exists_token (.int word)
    exact ⟨text, written⟩
  | bigInt small =>
    obtain ⟨text, written, _⟩ := exists_token (.bigInt small)
    exact ⟨text, written⟩
  | @array element items nonempty each ih =>
    have formats : ∃ texts, List.Forall₂ (fun item text => format element item = .ok text)
        items texts := exists_forall₂ ih
    obtain ⟨texts, related⟩ := formats
    refine ⟨"[" ++ joined "," texts ++ "]", ?_⟩
    rw [format, traverse?_eq, items?, Option.map_some, mapM_eq_ok_iff.mpr related]
    rfl
  | _ => exact ⟨_, rfl⟩

/-- **Reading normalises.** Whatever is read as a type without nested arrays and without doubles has a
canonical text, and is read again from its canonical spelling. However the value was spelled, the
spelling that it is printed with is a fixed one. -/
theorem reading_normalises {type : Ty} (flat : type.isNested = false)
    (exact : type.innermost ≠ .double) {tokens : List String} {value : Value}
    (read : ofTokens type tokens = .ok value) :
    (∃ text, format type value = .ok text) ∧
      ∃ spelled, spell type value = .ok spelled ∧ ofTokens type spelled = .ok value := by
  have typed := hasType_of_ofTokens flat exact read
  exact ⟨exists_format typed, exists_spell typed flat⟩

/-- Integers with a sign or with zeros in front are read again from their digits. -/
theorem reading_normalises_signed :
    ofTokens (.array (.scalar .int)) ["+7", "007", "-0"] = .ok (.list [.int 7, .int 7, .int 0]) ∧
      (∃ text, format (.array (.scalar .int)) (.list [.int 7, .int 7, .int 0]) = .ok text) ∧
      ∃ spelled, spell (.array (.scalar .int)) (.list [.int 7, .int 7, .int 0]) = .ok spelled ∧
        ofTokens (.array (.scalar .int)) spelled = .ok (.list [.int 7, .int 7, .int 0]) :=
  have read : ofTokens (.array (.scalar .int)) ["+7", "007", "-0"] =
      .ok (.list [.int 7, .int 7, .int 0]) :=
    (ofTokens_array _ _ _).mpr ⟨List.cons_ne_nil _ _, _, rfl, rfl⟩
  ⟨read, reading_normalises rfl (by decide) read⟩

end Value

end Argline
