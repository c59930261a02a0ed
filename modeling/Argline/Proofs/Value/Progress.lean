/-
**A cursor goes forward, and not across a flag.**

Whatever is done with a cursor takes tokens from the front of what is left, none of which is a flag
(`Cursor.exists_takes_perform`), also where it fails behind some of them. Ways one after another are one
way, so this is true of every sequence of operations (`Cursor.exists_takes_after`), and all else is read
off the way from the beginning.

* `Cursor.Operation`, `Cursor.perform`, `Cursor.after`: what can be done with a cursor, and the cursor
  behind it;
* `Value.exists_takes_read`: reading a value takes tokens, and reading fails behind those it took;
* `Cursor.findIdx_eq`: how far it is to the first flag;
* `Cursor.goes_forward`: where a cursor is after any operations.
-/

import Argline.Proofs.Range.Consumption
import Argline.Proofs.Value.Tokens

namespace Argline

/-! ### Reading takes tokens -/

namespace Value

theorem exists_takes_readBool (cursor : Cursor) :
    ∃ tokens, cursor.Takes tokens (readBool cursor).2 := by
  unfold readBool
  cases moved : cursor.next? with
  | none => exact ⟨[], .nothing cursor⟩
  | some step =>
    obtain ⟨token, next⟩ := step
    dsimp only
    cases boolOfToken? token with
    | none => exact ⟨[], .nothing cursor⟩
    | some truth => exact ⟨[token], .of_next? moved⟩

theorem exists_takes_readOne (type : Ty) (cursor : Cursor) :
    ∃ tokens, cursor.Takes tokens (readOne type cursor).2 := by
  unfold readOne
  cases moved : cursor.next? with
  | none => exact ⟨[], .nothing cursor⟩
  | some step =>
    obtain ⟨token, next⟩ := step
    exact ⟨[token], .of_next? moved⟩

/-- Reading items takes those that are read, and the one that fails. -/
theorem exists_takes_readItems (element : Ty) (cursor : Cursor) :
    ∃ tokens, cursor.Takes tokens (readItems element cursor).2 := by
  induction left : cursor.remaining.length using Nat.strongRecOn generalizing cursor with
  | ind size ih =>
    cases moved : cursor.next? with
    | none =>
      rw [readItems_of_atEnd moved]
      exact ⟨[], .nothing cursor⟩
    | some step =>
      obtain ⟨token, next⟩ := step
      have first := Cursor.Takes.of_next? moved
      rw [readItems_of_next? moved]
      cases ofToken element token with
      | error halt => exact ⟨[token], first⟩
      | ok item =>
        obtain ⟨more, way⟩ := ih _ (left ▸ Cursor.remaining_lt_of_next? moved) next rfl
        exact ⟨[token] ++ more, first.trans way⟩

theorem exists_takes_readArray (element : Ty) (cursor : Cursor) :
    ∃ tokens, cursor.Takes tokens (readArray element cursor).2 := by
  unfold readArray
  split
  · exact ⟨[], .nothing cursor⟩
  · exact exists_takes_readItems element cursor

/-- **Reading a value takes tokens from the front**, whether it comes to a value or fails. -/
theorem exists_takes_read (type : Ty) (cursor : Cursor) :
    ∃ tokens, cursor.Takes tokens (read type cursor).2 := by
  cases type with
  | array element => exact exists_takes_readArray element cursor
  | scalar kind =>
    cases kind with
    | bool => exact exists_takes_readBool cursor
    | range =>
      obtain ⟨tokens, consumes⟩ := Range.exists_consumes cursor
      exact ⟨tokens, consumes.way⟩
    | _ => exact exists_takes_readOne _ cursor

end Value

namespace Cursor

/-! ### Operations -/

/-- What can be done with a cursor. -/
inductive Operation where
  | peek
  | advance
  | atEnd
  | remaining
  /-- Read a value of a type. -/
  | read (type : Ty)
  /-- Read a range literal. -/
  | readRange

/-- What an operation answers. -/
inductive Answer where
  | peeked (token : Option String)
  | advanced (outcome : Except Breakage String)
  | ended (ended : Bool)
  | left (tokens : List String)
  | read (outcome : Except (Halt Rejection) Value)
  | readRange (outcome : Except (Halt Rejection) Range)

/-- What an operation answers, and where it leaves the cursor. One that fails leaves it behind the
tokens that it has taken. -/
def perform (cursor : Cursor) : Operation → Answer × Cursor
  | .peek => (.peeked cursor.peek, cursor)
  | .advance =>
    match cursor.advance with
    | .ok (token, next) => (.advanced (.ok token), next)
    | .error breakage => (.advanced (.error breakage), cursor)
  | .atEnd => (.ended cursor.atEnd, cursor)
  | .remaining => (.left cursor.remaining, cursor)
  | .read type => ((Value.read type cursor).map Answer.read id)
  | .readRange => ((Range.read cursor).map Answer.readRange id)

/-- The cursor after operations one after another. -/
def after (cursor : Cursor) (operations : List Operation) : Cursor :=
  operations.foldl (fun cursor operation => (cursor.perform operation).2) cursor

theorem after_append (cursor : Cursor) (earlier later : List Operation) :
    cursor.after (earlier ++ later) = (cursor.after earlier).after later :=
  List.foldl_append

/-- Advancing takes the next token, and fails where there is none. -/
theorem perform_advance (cursor : Cursor) :
    cursor.perform .advance =
      match cursor.next? with
      | some (token, next) => (.advanced (.ok token), next)
      | none => (.advanced (.error .exhausted), cursor) := by
  simp only [perform, advance]
  cases cursor.next? with
  | none => rfl
  | some step => rfl

/-- **Every operation takes tokens from the front**, or none. -/
theorem exists_takes_perform (operation : Operation) (cursor : Cursor) :
    ∃ tokens, cursor.Takes tokens (cursor.perform operation).2 := by
  cases operation with
  | advance =>
    rw [perform_advance]
    cases moved : cursor.next? with
    | none => exact ⟨[], .nothing cursor⟩
    | some step =>
      obtain ⟨token, next⟩ := step
      exact ⟨[token], .of_next? moved⟩
  | read type => exact Value.exists_takes_read type cursor
  | readRange =>
    obtain ⟨tokens, consumes⟩ := Range.exists_consumes cursor
    exact ⟨tokens, consumes.way⟩
  | _ => exact ⟨[], .nothing cursor⟩

/-- **So does every sequence of operations.** -/
theorem exists_takes_after (operations : List Operation) (cursor : Cursor) :
    ∃ tokens, cursor.Takes tokens (cursor.after operations) := by
  induction operations generalizing cursor with
  | nil => exact ⟨[], .nothing cursor⟩
  | cons operation rest ih =>
    obtain ⟨tokens, first⟩ := exists_takes_perform operation cursor
    obtain ⟨more, others⟩ := ih (cursor.perform operation).2
    exact ⟨tokens ++ more, first.trans others⟩

/-! ### The first flag -/

/-- A cursor is at its end exactly if there is no way left to the first flag. -/
theorem atEnd_iff_findIdx (cursor : Cursor) :
    cursor.atEnd = true ↔ cursor.remaining.findIdx cursor.isFlag = 0 := by
  unfold atEnd peek
  cases cursor.remaining with
  | nil => simp
  | cons token rest => cases flag : cursor.isFlag token <;> simp [flag, List.findIdx_cons]

/-- The first flag is behind the tokens taken. -/
theorem findIdx_eq {tokens consumed : List String} {isFlag : String → Bool} {last : Cursor}
    (way : (ofTokens tokens isFlag).Takes consumed last) :
    tokens.findIdx isFlag = last.position + last.remaining.findIdx last.isFlag := by
  have whole : tokens = consumed ++ last.remaining := way.remaining
  have position : last.position = consumed.length := by
    rw [way.position_eq]
    exact Nat.zero_add _
  have flagless : consumed.findIdx isFlag = consumed.length :=
    List.findIdx_eq_length.mpr way.flagless
  have same : last.isFlag = isFlag := way.isFlag
  rw [whole, List.findIdx_append, if_neg (by omega), same, position, Nat.add_comm]

/-- Advancing fails exactly at the end. -/
theorem exists_advanced_error_iff (cursor : Cursor) :
    (∃ failure, (cursor.perform .advance).1 = .advanced (.error failure)) ↔ cursor.atEnd = true := by
  rw [atEnd_iff, perform_advance]
  cases cursor.next? with
  | none => simp
  | some step => simp

/-- What advancing takes is the token at the position. -/
theorem advanced_token {cursor : Cursor} {token : String}
    (advanced : (cursor.perform .advance).1 = .advanced (.ok token)) :
    cursor.tokens[cursor.position]? = some token ∧
      (cursor.perform .advance).2.position = cursor.position + 1 := by
  rw [perform_advance] at advanced ⊢
  cases moved : cursor.next? with
  | none =>
    rw [moved] at advanced
    cases advanced
  | some step =>
    obtain ⟨other, next⟩ := step
    rw [moved] at advanced
    cases advanced
    have way := Takes.of_next? moved
    refine ⟨?_, way.position_eq⟩
    rw [← List.head?_drop, ← remaining_eq_drop, way.remaining]
    rfl

/-- **A cursor goes forward, and not across a flag.** After any operations, and others behind them, it
has not gone back, and it is no further than at the first flag. What is left are the tokens from its
position on, and together with those taken they are all of them. Looking at the next token, asking for
the end and for what is left do not move it. It is at its end exactly at the first flag, or behind all
tokens if there is none. Advancing fails exactly there and then does not move it, and otherwise it takes
the token at the position. -/
theorem goes_forward (tokens : List String) (isFlag : String → Bool)
    (earlier later : List Operation) :
    let cursor := (ofTokens tokens isFlag).after earlier
    let last := (ofTokens tokens isFlag).after (earlier ++ later)
    cursor.position ≤ last.position ∧ last.position ≤ tokens.findIdx isFlag ∧
    (last.perform .remaining).1 = .left (tokens.drop last.position) ∧
    last.taken.reverse ++ last.remaining = tokens ∧
    (∀ operation ∈ [Operation.peek, .atEnd, .remaining],
      (last.perform operation).2.position = last.position) ∧
    ((last.perform .atEnd).1 = .ended true ↔ last.position = tokens.findIdx isFlag) ∧
    ((∃ failure, (last.perform .advance).1 = .advanced (.error failure)) ↔
      (last.perform .atEnd).1 = .ended true) ∧
    (∀ failure, (last.perform .advance).1 = .advanced (.error failure) →
      (last.perform .advance).2.position = last.position) ∧
    ∀ token, (last.perform .advance).1 = .advanced (.ok token) →
      tokens[last.position]? = some token ∧
        (last.perform .advance).2.position = last.position + 1 := by
  intro cursor last
  obtain ⟨consumed, way⟩ := exists_takes_after (earlier ++ later) (ofTokens tokens isFlag)
  obtain ⟨more, onward⟩ := exists_takes_after later cursor
  rw [← after_append] at onward
  have forward : last.position = cursor.position + more.length := onward.position_eq
  have flag : tokens.findIdx isFlag = last.position + last.remaining.findIdx last.isFlag :=
    findIdx_eq way
  have whole : last.tokens = tokens := way.tokens_eq
  have ended : (last.perform .atEnd).1 = .ended true ↔ last.atEnd = true := by
    simp only [perform, Answer.ended.injEq]
  refine ⟨by omega, by omega, ?_, whole, ?_, ?_, ?_, ?_, ?_⟩
  · rw [← whole, ← remaining_eq_drop]
    rfl
  · simp [perform]
  · rw [ended, atEnd_iff_findIdx]
    omega
  · rw [ended]
    exact exists_advanced_error_iff last
  · intro failure failed
    have none := (atEnd_iff last).mp ((exists_advanced_error_iff last).mp ⟨failure, failed⟩)
    rw [perform_advance, none]
  · intro token advanced
    rw [← whole]
    exact advanced_token advanced

-- An array that fails at its second token has taken this token too.
example : ((ofTokens ["1", "x", "2", "--n"] (· = "--n")).after
    [.read (.array (.scalar .int)), .peek, .readRange]).position = 3 := by decide +kernel

end Cursor

end Argline
