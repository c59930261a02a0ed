/-
**A cursor over the tokens of a command line.**

A cursor reads tokens from left to right and never goes back. It may know which tokens are option
flags, and then ends in front of the next one.

* `Cursor.peek`, `Cursor.advance`: the next token that is no flag, without and with taking it;
* `Cursor.position`, `Cursor.remaining`: how many tokens are taken, and the others, flags included.
-/

import Argline.Breakage

namespace Argline

/-- A place in a list of tokens. -/
structure Cursor where
  /-- The tokens taken, the last one first. -/
  taken : List String
  /-- The tokens not taken. -/
  remaining : List String
  /-- Which tokens are option flags. -/
  isFlag : String → Bool

namespace Cursor

/-- The cursor in front of a list of tokens. -/
def ofTokens (tokens : List String) (isFlag : String → Bool := fun _ => false) : Cursor :=
  ⟨[], tokens, isFlag⟩

/-- The number of tokens taken. -/
def position (cursor : Cursor) : Nat := cursor.taken.length

/-- All tokens. -/
def tokens (cursor : Cursor) : List String := cursor.taken.reverse ++ cursor.remaining

/-- The next token, unless there is none or it is a flag. -/
def peek (cursor : Cursor) : Option String :=
  match cursor.remaining with
  | [] => none
  | token :: _ => if cursor.isFlag token then none else some token

/-- Is there no token to take? -/
def atEnd (cursor : Cursor) : Bool := cursor.peek.isNone

/-- The next token and the cursor behind it. -/
def next? (cursor : Cursor) : Option (String × Cursor) :=
  match cursor.remaining with
  | [] => none
  | token :: rest =>
    if cursor.isFlag token then none
    else some (token, { cursor with taken := token :: cursor.taken, remaining := rest })

/-- Take the next token. -/
def advance (cursor : Cursor) : Except Breakage (String × Cursor) :=
  match cursor.next? with
  | some taken => .ok taken
  | none => .error .exhausted

/-- Taking a token leaves fewer tokens. -/
theorem remaining_lt_of_next? {cursor next : Cursor} {token : String}
    (moved : cursor.next? = some (token, next)) :
    next.remaining.length < cursor.remaining.length := by
  unfold next? at moved
  split at moved
  · cases moved
  · next head rest equal =>
    split at moved
    · cases moved
    · cases moved
      simp [equal]

end Cursor

end Argline
