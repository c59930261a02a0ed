/-
**How a cursor moves.**

A cursor that has moved has taken tokens from the front of what was left, and none of them was a flag.
Two such ways one after another are one way, and a single token is the shortest.

* `Cursor.Takes`: the way from one cursor to another, by the tokens taken;
* `Cursor.slice`, `Cursor.Takes.slice_eq`: the tokens between two positions are those taken between
  them;
* `Cursor.continued`, `Cursor.Takes.continued`: the tokens from a position on replaced by others, which
  does not change the way up to there.
-/

import Argline.Cursor

namespace Argline

namespace Cursor

/-- A cursor has come to another one by taking tokens, none of which is a flag. -/
structure Takes (cursor : Cursor) (tokens : List String) (last : Cursor) : Prop where
  flagless : ∀ token ∈ tokens, cursor.isFlag token = false
  taken : last.taken = tokens.reverse ++ cursor.taken
  remaining : cursor.remaining = tokens ++ last.remaining
  isFlag : last.isFlag = cursor.isFlag

/-- The tokens from one position up to another. -/
def slice (cursor : Cursor) (first last : Nat) : List String :=
  (cursor.tokens.drop first).take (last - first)

/-- The cursor over other tokens, which are the same up to a position behind its own. -/
def continued (cursor : Cursor) (position : Nat) (other : List String) : Cursor :=
  { cursor with remaining := cursor.slice cursor.position position ++ other }

theorem atEnd_eq (cursor : Cursor) : cursor.atEnd = cursor.next?.isNone := by
  unfold atEnd peek next?
  cases cursor.remaining with
  | nil => rfl
  | cons token rest => cases flag : cursor.isFlag token <;> simp [flag]

/-- A cursor is at its end exactly if it can take no token. -/
theorem atEnd_iff (cursor : Cursor) : cursor.atEnd = true ↔ cursor.next? = none := by
  rw [atEnd_eq, Option.isNone_iff_eq_none]

/-- What is left are the tokens from the position on. -/
theorem remaining_eq_drop (cursor : Cursor) :
    cursor.remaining = cursor.tokens.drop cursor.position := by
  rw [tokens, position, ← List.length_reverse, List.drop_left]

namespace Takes

variable {cursor middle last : Cursor} {tokens more : List String}

theorem nothing (cursor : Cursor) : cursor.Takes [] cursor where
  flagless _ member := nomatch member
  taken := rfl
  remaining := rfl
  isFlag := rfl

theorem of_next? {token : String} (moved : cursor.next? = some (token, last)) :
    cursor.Takes [token] last := by
  unfold next? at moved
  split at moved
  · cases moved
  · next head rest equal =>
    split at moved
    · cases moved
    · next flagless =>
      cases moved
      refine ⟨fun other member => ?_, rfl, equal, rfl⟩
      rw [List.mem_singleton.mp member]
      exact Bool.eq_false_iff.mpr flagless

theorem trans (first : cursor.Takes tokens middle) (second : middle.Takes more last) :
    cursor.Takes (tokens ++ more) last where
  flagless token member := by
    rcases List.mem_append.mp member with early | late
    · exact first.flagless token early
    · exact first.isFlag ▸ second.flagless token late
  taken := by rw [second.taken, first.taken, List.reverse_append, List.append_assoc]
  remaining := by rw [first.remaining, second.remaining, List.append_assoc]
  isFlag := second.isFlag.trans first.isFlag

/-- The first token of a way is the next one. -/
theorem uncons {token : String} (way : cursor.Takes (token :: tokens) last) :
    ∃ next, cursor.next? = some (token, next) ∧ next.Takes tokens last := by
  have flagless := way.flagless token List.mem_cons_self
  refine ⟨{ cursor with taken := token :: cursor.taken, remaining := tokens ++ last.remaining },
    ?_, ?_⟩
  · simp [next?, way.remaining, flagless]
  · exact ⟨fun other member => way.flagless other (List.mem_cons_of_mem _ member),
      by simpa using way.taken, rfl, way.isFlag⟩

/-- No token is lost on the way. -/
theorem tokens_eq (way : cursor.Takes tokens last) : last.tokens = cursor.tokens := by
  simp [Cursor.tokens, way.taken, way.remaining]

theorem position_eq (way : cursor.Takes tokens last) :
    last.position = cursor.position + tokens.length := by
  rw [position, position, way.taken, List.length_append, List.length_reverse, Nat.add_comm]

/-- The tokens taken are those between the two positions, and where the way ends earlier, it is by as
many tokens less. -/
theorem slice_eq_take (way : cursor.Takes tokens last) (count : Nat)
    (within : count ≤ tokens.length) :
    cursor.slice cursor.position (cursor.position + count) = tokens.take count := by
  rw [slice, Nat.add_sub_cancel_left, ← remaining_eq_drop, way.remaining,
    List.take_append_of_le_length within]

theorem slice_eq (way : cursor.Takes tokens last) :
    cursor.slice cursor.position last.position = tokens := by
  rw [way.position_eq, way.slice_eq_take _ (Nat.le_refl _), List.take_length]

/-- The way does not depend on the tokens behind it. -/
theorem continued (way : cursor.Takes tokens last) (other : List String) :
    (cursor.continued last.position other).Takes tokens { last with remaining := other } where
  flagless := way.flagless
  taken := way.taken
  remaining := by rw [Cursor.continued, way.slice_eq]
  isFlag := way.isFlag

end Takes

end Cursor

end Argline
