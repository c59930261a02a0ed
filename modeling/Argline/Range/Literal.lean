/-
**Range literals.**

A range is written `start..step..end`, or `start..end` for a step of one. The tokens of a range may be
cut anywhere around the separators, and numbers of consecutive tokens are separated without one.

* `Piece.ofToken`: the numbers and separators of one token;
* `Assembly`: what the pieces read so far make up, with `Assembly.push` for one piece more;
* `Range.read`: the range that a cursor stands in front of; it is complete with its third number, or
  where the tokens end;
* `Range.ofTokens`: the range that consists of all of a list of tokens.
-/

import Argline.Range.Basic
import Argline.Cursor
import Argline.Rejection

namespace Argline

/-- A part of a range literal. -/
inductive Piece where
  | number (word : Word)
  | separator
deriving DecidableEq, Repr

namespace Piece

/-- Cut at each pair of points, from left to right. -/
def cutSeparators : List Char → List (List Char)
  | [] => [[]]
  | '.' :: '.' :: rest => [] :: cutSeparators rest
  | c :: rest =>
    match cutSeparators rest with
    | [] => [[c]]
    | fragment :: more => (c :: fragment) :: more

/-- The number of a fragment that is not empty. -/
def ofFragment (fragment : List Char) : Except (Halt RangeFault) Piece :=
  let content := String.ofList fragment
  match readInteger content with
  | .error (.tooLong digits) => .error (.broken (.integerTooLong digits))
  | .error .malformed => .error (.refused (.notWord content))
  | .ok value =>
    match Word.ofInt? value with
    | some word => .ok (.number word)
    | none => .error (.refused (.notWord content))

/-- The pieces of the fragments behind the first separator, each behind a separator of its own. Only
the last fragment may be empty. -/
def ofTail : List (List Char) → Except (Halt RangeFault) (List Piece)
  | [] => .ok []
  | [[]] => .ok [.separator]
  | [] :: _ => .error (.refused .emptyComponent)
  | fragment :: rest => do
    let piece ← ofFragment fragment
    let more ← ofTail rest
    pure (.separator :: piece :: more)

/-- The pieces of the fragments of a token. The first fragment may be empty. -/
def ofFragments : List (List Char) → Except (Halt RangeFault) (List Piece)
  | [] => .ok []
  | [] :: rest => ofTail rest
  | fragment :: rest => do
    let piece ← ofFragment fragment
    let more ← ofTail rest
    pure (piece :: more)

/-- The pieces of a token. -/
def ofToken (token : String) : Except (Halt RangeFault) (List Piece) :=
  if token.toList = [] then .error (.refused .emptyToken)
  else ofFragments (cutSeparators token.toList)

end Piece

/-! ### Assembly -/

/-- A range literal read so far: its numbers, and whether a separator follows the last one. -/
inductive Assembly where
  | start
  | one (first : Word)
  | oneOpen (first : Word)
  | two (first second : Word)
  | twoOpen (first second : Word)
  | three (first second third : Word)
deriving DecidableEq, Repr

namespace Assembly

/-- Has the third number been read? -/
def isComplete : Assembly → Bool
  | .three _ _ _ => true
  | _ => false

/-- Add a piece. -/
def push : Assembly → Piece → Except RangeFault Assembly
  | .start, .number word => .ok (.one word)
  | .start, .separator => .error .missingStart
  | .one first, .number word => .ok (.two first word)
  | .one first, .separator => .ok (.oneOpen first)
  | .oneOpen first, .number word => .ok (.two first word)
  | .oneOpen _, .separator => .error .doubledSeparator
  | .two first second, .number word => .ok (.three first second word)
  | .two first second, .separator => .ok (.twoOpen first second)
  | .twoOpen first second, .number word => .ok (.three first second word)
  | .twoOpen _ _, .separator => .error .doubledSeparator
  | .three _ _ _, _ => .error .tooMany

/-- Add the pieces of a token. -/
def pushToken (assembly : Assembly) (token : String) : Except (Halt RangeFault) Assembly :=
  match Piece.ofToken token with
  | .error halt => .error halt
  | .ok pieces =>
    match pieces.foldlM push assembly with
    | .error fault => .error (.refused fault)
    | .ok next => .ok next

/-- The range of a literal that has come to its end. -/
def finish : Assembly → Except RangeFault Range
  | .start => .error .tooFew
  | .one _ => .error .tooFew
  | .oneOpen _ => .error .dangling
  | .two first second => .ok ⟨first, .one, second⟩
  | .twoOpen _ _ => .error .dangling
  | .three first second third => .ok ⟨first, second, third⟩

end Assembly

namespace Range

/-- The range of a literal that consists of the tokens consumed. -/
def close (assembly : Assembly) (consumed : List String) : Except (Halt Rejection) Range :=
  match assembly.finish with
  | .ok range => .ok range
  | .error fault => .error (.refused (.range consumed fault))

/-- Go on reading a literal: it ends with its third number, or where the cursor is at its end. -/
def readFrom (assembly : Assembly) (consumed : List String) (cursor : Cursor) :
    Except (Halt Rejection) Range × Cursor :=
  if assembly.isComplete then (close assembly consumed, cursor)
  else match _ : cursor.next? with
    | none => (close assembly consumed, cursor)
    | some (token, next) =>
      match assembly.pushToken token with
      | .error (.refused fault) => (.error (.refused (.range (consumed ++ [token]) fault)), next)
      | .error (.broken breakage) => (.error (.broken breakage), next)
      | .ok longer => readFrom longer (consumed ++ [token]) next
termination_by cursor.remaining.length
decreasing_by exact Cursor.remaining_lt_of_next? (by assumption)

/-- Read the range in front of a cursor. -/
def read (cursor : Cursor) : Except (Halt Rejection) Range × Cursor := readFrom .start [] cursor

/-- The range that a list of tokens is; every token must belong to it. -/
def ofTokens (tokens : List String) : Except (Halt Rejection) Range :=
  match read (Cursor.ofTokens tokens) with
  | (.error halt, _) => .error halt
  | (.ok range, cursor) =>
    if cursor.remaining.isEmpty then .ok range else .error (.refused (.range tokens .tooMany))

end Range

end Argline
