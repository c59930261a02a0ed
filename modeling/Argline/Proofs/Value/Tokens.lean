/-
**Which tokens are a value of a type.**

* `Value.ofTokens_of_single`: one token, for the types whose values are one;
* `Value.ofTokens_bool`: one token or none, for truth values;
* `Value.ofTokens_range`: the tokens of a range literal;
* `Value.ofTokens_array`: a token for each item, of which there is at least one.
-/

import Argline.Proofs.Outcome
import Argline.Schema.Basic
import Argline.Value.Reading

namespace Argline

namespace Value

/-- Reading a list of tokens comes to a value exactly if none of them is left. -/
theorem ofTokens_eq_ok_iff (type : Ty) (tokens : List String) (value : Value) :
    ofTokens type tokens = .ok value ↔
      (read type (.ofTokens tokens)).1 = .ok value ∧
        (read type (.ofTokens tokens)).2.remaining = [] := by
  unfold ofTokens
  split
  · next halt last equal => simp [equal]
  · next found last equal =>
    rw [equal]
    cases last.remaining with
    | nil => simp
    | cons token rest => simp

theorem readOne_eq_ok_iff (type : Ty) (tokens : List String) (value : Value) :
    ((readOne type (.ofTokens tokens)).1 = .ok value ∧
      (readOne type (.ofTokens tokens)).2.remaining = []) ↔
      ∃ token, tokens = [token] ∧ ofToken type token = .ok value := by
  cases tokens with
  | nil => simp [readOne, Cursor.ofTokens, Cursor.next?]
  | cons token rest =>
    simp [readOne, Cursor.ofTokens, Cursor.next?, and_comm]

/-- **A value that is one token.** -/
theorem ofTokens_of_single {type : Ty} (single : type.arity = .single) (tokens : List String)
    (value : Value) :
    ofTokens type tokens = .ok value ↔ ∃ token, tokens = [token] ∧ ofToken type token = .ok value := by
  rw [ofTokens_eq_ok_iff, ← readOne_eq_ok_iff]
  cases type with
  | array element => cases single
  | scalar kind =>
    cases kind with
    | bool => cases single
    | range => cases single
    | _ => rfl

/-- **A truth value, which may be left out.** -/
theorem ofTokens_bool (tokens : List String) (value : Value) :
    ofTokens (.scalar .bool) tokens = .ok value ↔
      (tokens = [] ∧ value = .bool true) ∨
        ∃ token truth, tokens = [token] ∧ boolOfToken? token = some truth ∧ value = .bool truth := by
  rw [ofTokens_eq_ok_iff, read, readBool]
  cases tokens with
  | nil => simp [Cursor.ofTokens, Cursor.next?, eq_comm]
  | cons token rest =>
    cases found : boolOfToken? token with
    | none => simp [Cursor.ofTokens, Cursor.next?, found]
    | some truth =>
      simp only [Cursor.ofTokens, Cursor.next?, Bool.false_eq_true, if_false, found,
        Except.ok.injEq, reduceCtorEq, false_and, false_or]
      constructor
      · rintro ⟨rfl, rfl⟩
        exact ⟨token, truth, rfl, found, rfl⟩
      · rintro ⟨other, read, equal, same, rfl⟩
        cases equal
        rw [found] at same
        cases same
        exact ⟨rfl, rfl⟩

/-- **A range is its literal.** -/
theorem ofTokens_range (tokens : List String) (value : Value) :
    ofTokens (.scalar .range) tokens = .ok value ↔
      ∃ range, Range.ofTokens tokens = .ok range ∧ value = .range range := by
  rw [ofTokens_eq_ok_iff, read, Range.ofTokens]
  obtain ⟨outcome, last⟩ := Range.read (.ofTokens tokens)
  cases outcome with
  | error halt => simp [Except.map]
  | ok range =>
    obtain ⟨taken, remaining, isFlag⟩ := last
    cases remaining with
    | nil => simp [Except.map, eq_comm]
    | cons token rest => simp

/-! ### Arrays -/

/-- There are no items where the tokens end. -/
theorem readItems_of_atEnd {element : Ty} {cursor : Cursor} (atEnd : cursor.next? = none) :
    readItems element cursor = (.ok [], cursor) := by
  rw [readItems]
  split
  · rfl
  · next moved => rw [atEnd] at moved; cases moved

/-- The first item is the next token. -/
theorem readItems_of_next? {element : Ty} {cursor next : Cursor} {token : String}
    (moved : cursor.next? = some (token, next)) :
    readItems element cursor =
      match ofToken element token with
      | .error halt => (.error halt, next)
      | .ok item => ((readItems element next).1.map (item :: ·), (readItems element next).2) := by
  rw [readItems]
  split
  · next atEnd => rw [atEnd] at moved; cases moved
  · next other last found =>
    rw [found] at moved
    cases moved
    rfl

/-- Every token of a list is read as an item. -/
theorem readItems_eq_ok_iff (element : Ty) (taken tokens : List String) (items : List Value) :
    ((readItems element ⟨taken, tokens, fun _ => false⟩).1 = .ok items ∧
      (readItems element ⟨taken, tokens, fun _ => false⟩).2.remaining = []) ↔
      tokens.mapM (ofToken element) = .ok items := by
  induction tokens generalizing taken items with
  | nil =>
    rw [readItems_of_atEnd rfl]
    simp [pure_eq_ok_iff]
  | cons token rest ih =>
    rw [readItems_of_next? rfl, List.mapM_cons]
    simp only [bind_eq_ok_iff, pure_eq_ok_iff]
    cases ofToken element token with
    | error halt => simp
    | ok item =>
      simp only [map_eq_ok_iff, Except.ok.injEq, exists_eq_left', ← ih (token :: taken)]
      constructor
      · rintro ⟨⟨others, read, rfl⟩, done⟩
        exact ⟨others, ⟨read, done⟩, rfl⟩
      · rintro ⟨others, ⟨read, done⟩, rfl⟩
        exact ⟨⟨others, read, rfl⟩, done⟩

/-- **An array is a token for each of its items, and has at least one.** -/
theorem ofTokens_array (element : Ty) (tokens : List String) (value : Value) :
    ofTokens (.array element) tokens = .ok value ↔
      tokens ≠ [] ∧ ∃ items, tokens.mapM (ofToken element) = .ok items ∧ value = .list items := by
  rw [ofTokens_eq_ok_iff, read, readArray]
  cases tokens with
  | nil => simp [Cursor.ofTokens, Cursor.atEnd, Cursor.peek]
  | cons token rest =>
    have started : (Cursor.ofTokens (token :: rest)).atEnd = false := rfl
    simp only [started, Bool.false_eq_true, if_false, map_eq_ok_iff, ne_eq, reduceCtorEq,
      not_false_eq_true, true_and, ← readItems_eq_ok_iff element []]
    constructor
    · rintro ⟨⟨items, read, rfl⟩, done⟩
      exact ⟨items, ⟨read, done⟩, rfl⟩
    · rintro ⟨items, ⟨read, done⟩, rfl⟩
      exact ⟨⟨items, read, rfl⟩, done⟩

end Value

/-! ### How many tokens there are -/

/-- How many tokens an option may be given. -/
def Arity.Admits : Arity → List String → Prop
  | .single, tokens => ∃ token, tokens = [token]
  | .flag, tokens => tokens.length ≤ 1
  | .greedy, tokens => tokens ≠ []

/-- **The tokens of a value are as many as its type takes.** -/
theorem Value.admits_of_ofTokens {type : Ty} {tokens : List String} {value : Value}
    (read : Value.ofTokens type tokens = .ok value) : type.arity.Admits tokens := by
  cases arity : type.arity with
  | single =>
    obtain ⟨token, only, _⟩ := (ofTokens_of_single arity tokens value).mp read
    exact ⟨token, only⟩
  | flag =>
    obtain rfl : type = .scalar .bool := by
      cases type with
      | array element => cases arity
      | scalar kind => cases kind <;> first | rfl | cases arity
    rcases (ofTokens_bool tokens value).mp read with ⟨rfl, _⟩ | ⟨token, _, rfl, _⟩
    · exact Nat.zero_le 1
    · exact Nat.le_refl 1
  | greedy =>
    rintro rfl
    cases type with
    | array element => exact ((ofTokens_array element [] value).mp read).1 rfl
    | scalar kind =>
      cases kind with
      | range =>
        obtain ⟨range, read, _⟩ := (ofTokens_range [] value).mp read
        rw [Range.ofTokens, Range.read, Range.readFrom] at read
        cases read
      | _ => cases arity

end Argline
