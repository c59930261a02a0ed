/-
**Values in front of a flag.**

A cursor that knows the flags ends in front of the first one. Reading a value from it comes to the same
as reading the value from the tokens up to there and nothing else.

* `Cursor.Abreast`: a cursor that ends at a flag, beside one for which the tokens end there;
* `Cursor.Abreast.next?`: both take the same token next, or both are at their end;
* `Value.read_abreast`: so both read the same value, or fail in the same way, and stay abreast;
* `Value.read_front_iff`: what is read in front of a flag, told from the tokens in front of it.
-/

import Argline.Proofs.Cursor
import Argline.Proofs.Fronts
import Argline.Proofs.Range.Reading
import Argline.Proofs.Value.Tokens

namespace Argline

/-! ### Two cursors -/

/-- A cursor that ends at a flag, if not at the end of the tokens, and one for which the tokens end
there. Both have come equally far. -/
structure Cursor.Abreast (front back : List String) (cursor bare : Cursor) : Prop where
  tokens : bare.tokens = front
  taken : cursor.taken = bare.taken
  remaining : cursor.remaining = bare.remaining ++ back
  flagless : ∀ token, bare.isFlag token = false
  plain : ∀ token ∈ bare.remaining, cursor.isFlag token = false
  ends : ∀ token ∈ back.head?, cursor.isFlag token = true

namespace Cursor

variable {front back : List String} {cursor bare : Cursor}

/-- A cursor over tokens stands abreast of one over those in front of the first flag. -/
theorem abreast_ofTokens (tokens : List String) (isFlag : String → Bool) :
    Abreast (tokens.takeWhile fun token => !isFlag token)
      (tokens.dropWhile fun token => !isFlag token) (ofTokens tokens isFlag)
      (ofTokens (tokens.takeWhile fun token => !isFlag token)) where
  tokens := rfl
  taken := rfl
  remaining := List.takeWhile_append_dropWhile.symm
  flagless _ := rfl
  plain token member := by simpa [ofTokens] using List.mem_takeWhile_imp member
  ends token first := by simpa [ofTokens] using eq_false_of_head?_dropWhile token first

namespace Abreast

theorem position (abreast : Abreast front back cursor bare) : cursor.position = bare.position := by
  rw [Cursor.position, Cursor.position, abreast.taken]

/-- The tokens that are left in front of the flag. -/
theorem drop_position (abreast : Abreast front back cursor bare) :
    front.drop cursor.position = bare.remaining := by
  rw [← abreast.tokens, abreast.position, ← remaining_eq_drop]

/-- **Both cursors take the same token next, or both are at their end.** -/
theorem next? (abreast : Abreast front back cursor bare) :
    (cursor.next? = none ∧ bare.next? = none) ∨
      ∃ token next bareNext, cursor.next? = some (token, next) ∧
        bare.next? = some (token, bareNext) ∧ bare.remaining = token :: bareNext.remaining ∧
        Abreast front back next bareNext := by
  obtain ⟨tokens, taken, remaining, flagless, plain, ends⟩ := abreast
  cases left : bare.remaining with
  | nil =>
    refine .inl ⟨?_, by simp [Cursor.next?, left]⟩
    rw [left, List.nil_append] at remaining
    cases rest : back with
    | nil => simp [Cursor.next?, remaining, rest]
    | cons token more =>
      have flag := ends token (by simp [rest])
      simp [Cursor.next?, remaining, rest, flag]
  | cons token more =>
    rw [left] at remaining plain
    have value := plain token List.mem_cons_self
    refine .inr ⟨token, { cursor with taken := token :: cursor.taken, remaining := more ++ back },
      { bare with taken := token :: bare.taken, remaining := more }, ?_, ?_, rfl, ?_⟩
    · simp [Cursor.next?, remaining, value]
    · simp [Cursor.next?, left, flagless]
    · refine ⟨?_, congrArg (token :: ·) taken, rfl, flagless, fun other member => ?_, ends⟩
      · rw [← tokens, Cursor.tokens, Cursor.tokens, left]
        simp
      · exact plain other (List.mem_cons_of_mem _ member)

theorem atEnd (abreast : Abreast front back cursor bare) : cursor.atEnd = bare.atEnd := by
  rw [atEnd_eq, atEnd_eq]
  rcases abreast.next? with ⟨ended, bareEnded⟩ | ⟨token, next, bareNext, moved, bareMoved, _⟩
  · rw [ended, bareEnded]
  · rw [moved, bareMoved]
    rfl

end Abreast

end Cursor

/-! ### What both cursors read -/

/-- Two readings that come to the same and leave their cursors abreast. -/
structure ReadAbreast {α : Type} (front back : List String)
    (reading bare : Except (Halt Rejection) α × Cursor) : Prop where
  same : reading.1 = bare.1
  abreast : Cursor.Abreast front back reading.2 bare.2

theorem ReadAbreast.map {α β : Type} {front back : List String}
    {reading bare : Except (Halt Rejection) α × Cursor} (read : ReadAbreast front back reading bare)
    (f : α → β) : ReadAbreast front back (reading.1.map f, reading.2) (bare.1.map f, bare.2) :=
  ⟨congrArg (Except.map f) read.same, read.abreast⟩

variable {front back : List String} {cursor bare : Cursor}

/-- Two cursors read the same literal on, and stop at the same token of it. -/
theorem Range.readFrom_abreast (assembly : Assembly) (consumed : List String)
    (abreast : Cursor.Abreast front back cursor bare) :
    ReadAbreast front back (readFrom assembly consumed cursor)
      (readFrom assembly consumed bare) := by
  by_cases complete : assembly.isComplete = true
  · rw [readFrom, readFrom, if_pos complete, if_pos complete]
    exact ⟨rfl, abreast⟩
  induction left : bare.remaining generalizing assembly consumed cursor bare with
  | nil =>
    rcases abreast.next? with ⟨ended, bareEnded⟩ | ⟨token, next, bareNext, _, _, more, _⟩
    · rw [readFrom_of_atEnd ended, readFrom_of_atEnd bareEnded]
      exact ⟨rfl, abreast⟩
    · rw [left] at more
      cases more
  | cons head rest ih =>
    rcases abreast.next? with ⟨ended, bareEnded⟩ |
      ⟨token, next, bareNext, moved, bareMoved, more, abreast'⟩
    · rw [readFrom_of_atEnd ended, readFrom_of_atEnd bareEnded]
      exact ⟨rfl, abreast⟩
    · obtain rfl : bareNext.remaining = rest := by
        rw [left] at more
        exact (List.cons.inj more).2.symm
      rw [readFrom_of_next? complete moved, readFrom_of_next? complete bareMoved]
      cases assembly.pushToken token with
      | error halt => cases halt <;> exact ⟨rfl, abreast'⟩
      | ok longer =>
        dsimp only
        by_cases last : longer.isComplete = true
        · rw [readFrom, readFrom, if_pos last, if_pos last]
          exact ⟨rfl, abreast'⟩
        · exact ih longer _ abreast' last rfl

namespace Value

theorem readBool_abreast (abreast : Cursor.Abreast front back cursor bare) :
    ReadAbreast front back (readBool cursor) (readBool bare) := by
  unfold readBool
  rcases abreast.next? with ⟨ended, bareEnded⟩ |
    ⟨token, next, bareNext, moved, bareMoved, _, abreast'⟩
  · rw [ended, bareEnded]
    exact ⟨rfl, abreast⟩
  · rw [moved, bareMoved]
    dsimp only
    cases boolOfToken? token with
    | none => exact ⟨rfl, abreast⟩
    | some truth => exact ⟨rfl, abreast'⟩

theorem readOne_abreast (type : Ty) (abreast : Cursor.Abreast front back cursor bare) :
    ReadAbreast front back (readOne type cursor) (readOne type bare) := by
  unfold readOne
  rcases abreast.next? with ⟨ended, bareEnded⟩ |
    ⟨token, next, bareNext, moved, bareMoved, _, abreast'⟩
  · rw [ended, bareEnded]
    exact ⟨rfl, abreast⟩
  · rw [moved, bareMoved]
    exact ⟨rfl, abreast'⟩

/-- Two cursors read the same items, and stop at the same one that fails. -/
theorem readItems_abreast (element : Ty) (abreast : Cursor.Abreast front back cursor bare) :
    ReadAbreast front back (readItems element cursor) (readItems element bare) := by
  induction left : bare.remaining generalizing cursor bare with
  | nil =>
    rcases abreast.next? with ⟨ended, bareEnded⟩ | ⟨token, next, bareNext, _, _, more, _⟩
    · rw [readItems_of_atEnd ended, readItems_of_atEnd bareEnded]
      exact ⟨rfl, abreast⟩
    · rw [left] at more
      cases more
  | cons head rest ih =>
    rcases abreast.next? with ⟨ended, bareEnded⟩ |
      ⟨token, next, bareNext, moved, bareMoved, more, abreast'⟩
    · rw [readItems_of_atEnd ended, readItems_of_atEnd bareEnded]
      exact ⟨rfl, abreast⟩
    · obtain rfl : bareNext.remaining = rest := by
        rw [left] at more
        exact (List.cons.inj more).2.symm
      rw [readItems_of_next? moved, readItems_of_next? bareMoved]
      cases ofToken element token with
      | error halt => exact ⟨rfl, abreast'⟩
      | ok item => exact (ih abreast' rfl).map (item :: ·)

theorem readArray_abreast (element : Ty) (abreast : Cursor.Abreast front back cursor bare) :
    ReadAbreast front back (readArray element cursor) (readArray element bare) := by
  unfold readArray
  rw [abreast.atEnd]
  split
  · exact ⟨rfl, abreast⟩
  · exact (readItems_abreast element abreast).map Value.list

/-- **Two cursors abreast read the same value, or fail in the same way, and stay abreast.** -/
theorem read_abreast (type : Ty) (abreast : Cursor.Abreast front back cursor bare) :
    ReadAbreast front back (read type cursor) (read type bare) := by
  cases type with
  | array element => exact readArray_abreast element abreast
  | scalar kind =>
    cases kind with
    | bool => exact readBool_abreast abreast
    | range => exact (Range.readFrom_abreast .start [] abreast).map Value.range
    | _ => exact readOne_abreast _ abreast

/-! ### Failures -/

/-- A failure on account of tokens that are left behind a value. -/
def IsLeftover (halt : Halt Rejection) : Prop :=
  ∃ shown advice, halt = .refused (.unrecognized shown advice)

theorem not_isLeftover_of_failsOn {tokens : List String} {halt : Halt Rejection}
    (fails : Range.FailsOn tokens halt) : ¬ IsLeftover halt := by
  rintro ⟨shown, advice, rfl⟩
  rcases fails with ⟨_, _, other⟩ | ⟨_, _, _, _, other⟩ <;> cases other

theorem not_isLeftover_of_integerOfToken {label token : String} {halt : Halt Rejection}
    (failed : integerOfToken label token = .error halt) : ¬ IsLeftover halt := by
  rintro ⟨shown, advice, rfl⟩
  unfold integerOfToken at failed
  split at failed
  · cases failed
  · next fault _ => cases fault <;> cases failed

theorem not_isLeftover_of_orUnreadable {expected : Unreadable} {token : String}
    {found : Option Value} {halt : Halt Rejection}
    (failed : orUnreadable expected token found = .error halt) : ¬ IsLeftover halt := by
  rintro ⟨shown, advice, rfl⟩
  unfold orUnreadable at failed
  split at failed <;> cases failed

/-- A token that is no value of a type leaves nothing over. -/
theorem not_isLeftover_of_ofToken {type : Ty} {token : String} {halt : Halt Rejection}
    (failed : ofToken type token = .error halt) : ¬ IsLeftover halt := by
  cases type with
  | array element =>
    cases failed
    rintro ⟨shown, advice, other⟩
    cases other
  | scalar kind =>
    cases kind with
    | int =>
      rcases bind_eq_error_iff.mp (map_eq_error_iff.mp failed) with unread | ⟨number, _, outside⟩
      · exact not_isLeftover_of_integerOfToken unread
      · rintro ⟨shown, advice, rfl⟩
        split at outside <;> cases outside
    | bigInt => exact not_isLeftover_of_integerOfToken (map_eq_error_iff.mp failed)
    | range => exact not_isLeftover_of_failsOn (Range.refused_or_overlong (map_eq_error_iff.mp failed))
    | text => cases failed
    | _ => exact not_isLeftover_of_orUnreadable failed

theorem not_isLeftover_of_readOne {type : Ty} {tokens : List String} {halt : Halt Rejection}
    (failed : (readOne type (.ofTokens tokens)).1 = .error halt) : ¬ IsLeftover halt := by
  cases tokens with
  | nil =>
    rintro ⟨shown, advice, rfl⟩
    cases failed
  | cons token rest => exact not_isLeftover_of_ofToken failed

theorem not_isLeftover_of_readItems {element : Ty} {taken tokens : List String}
    {halt : Halt Rejection}
    (failed : (readItems element ⟨taken, tokens, fun _ => false⟩).1 = .error halt) :
    ¬ IsLeftover halt := by
  induction tokens generalizing taken with
  | nil =>
    rw [readItems_of_atEnd rfl] at failed
    cases failed
  | cons token rest ih =>
    rw [readItems_of_next? rfl] at failed
    cases item : ofToken element token with
    | error cause =>
      rw [item] at failed
      cases failed
      exact not_isLeftover_of_ofToken item
    | ok value =>
      rw [item] at failed
      exact ih (map_eq_error_iff.mp failed)

/-- **Reading the value in front does not fail on account of what is left behind it.** -/
theorem not_isLeftover_of_read {type : Ty} {tokens : List String} {halt : Halt Rejection}
    (failed : (read type (.ofTokens tokens)).1 = .error halt) : ¬ IsLeftover halt := by
  cases type with
  | array element =>
    rw [read, readArray] at failed
    split at failed
    · rintro ⟨shown, advice, rfl⟩
      cases failed
    · exact not_isLeftover_of_readItems (map_eq_error_iff.mp failed)
  | scalar kind =>
    cases kind with
    | bool =>
      rw [read, readBool] at failed
      split at failed
      · cases failed
      · split at failed <;> cases failed
    | range =>
      exact not_isLeftover_of_failsOn (Range.failsOn_of_readFrom (map_eq_error_iff.mp failed))
    | _ => exact not_isLeftover_of_readOne failed

/-- A list of tokens is no value if reading fails, or if tokens are left. -/
theorem ofTokens_eq_error_iff (type : Ty) (tokens : List String) (halt : Halt Rejection) :
    ofTokens type tokens = .error halt ↔
      (read type (.ofTokens tokens)).1 = .error halt ∨
        (∃ value, (read type (.ofTokens tokens)).1 = .ok value) ∧
          (read type (.ofTokens tokens)).2.remaining ≠ [] ∧
          halt = .refused (.unrecognized (read type (.ofTokens tokens)).2.remaining none) := by
  unfold ofTokens
  split
  · next cause last equal => simp [equal]
  · next value last equal =>
    rw [equal]
    cases last.remaining with
    | nil => simp
    | cons token rest => simp [eq_comm]

/-! ### The tokens in front of a flag -/

/-- **What is read in front of a flag is what the tokens up to there are.** The front of a list of tokens
is what stands before its first flag. A cursor reads a value and comes to the end of the front exactly
if the front is this value. It reads a value and stops within the front exactly if the front is refused
for the tokens that are left, and these are the tokens from there on. It fails exactly if the front
fails in another way, and then both fail in the same way. -/
theorem read_front_iff (type : Ty) (tokens : List String) (isFlag : String → Bool) :
    let front := tokens.takeWhile fun token => !isFlag token
    let reading := read type (.ofTokens tokens isFlag)
    (∀ value, reading.1 = .ok value ∧ reading.2.position = front.length ↔
      ofTokens type front = .ok value) ∧
    (∀ count, ((∃ value, reading.1 = .ok value) ∧ reading.2.position = count ∧
        count < front.length) ↔
      ofTokens type front = .error (.refused (.unrecognized (front.drop count) none))) ∧
    ∀ halt, reading.1 = .error halt ↔ ofTokens type front = .error halt ∧ ¬ IsLeftover halt := by
  intro front reading
  obtain ⟨same, abreast⟩ : ReadAbreast front _ reading (read type (.ofTokens front)) :=
    read_abreast type (Cursor.abreast_ofTokens tokens isFlag)
  have left := abreast.drop_position
  have within := congrArg List.length abreast.tokens
  rw [Cursor.tokens, List.length_append, List.length_reverse, ← Cursor.position,
    ← abreast.position] at within
  refine ⟨fun value => ?_, fun count => ?_, fun halt => ?_⟩
  · rw [ofTokens_eq_ok_iff, same, ← List.length_eq_zero_iff]
    exact and_congr_right' (by omega)
  · rw [same, ofTokens_eq_error_iff]
    constructor
    · rintro ⟨read, rfl, before⟩
      refine .inr ⟨read, ?_, by rw [left]⟩
      exact List.ne_nil_of_length_pos (by omega)
    · rintro (failed | ⟨read, some, refused⟩)
      · exact absurd ⟨_, _, rfl⟩ (not_isLeftover_of_read failed)
      · simp only [Halt.refused.injEq, Rejection.unrecognized.injEq, and_true] at refused
        have count' := congrArg List.length refused
        have nonempty := List.length_pos_of_ne_nil some
        rw [List.length_drop] at count'
        exact ⟨read, by omega, by omega⟩
  · rw [same, ofTokens_eq_error_iff]
    constructor
    · exact fun failed => ⟨.inl failed, not_isLeftover_of_read failed⟩
    · rintro ⟨failed | ⟨_, _, rfl⟩, other⟩
      · exact failed
      · exact absurd ⟨_, _, rfl⟩ other

end Value

end Argline
