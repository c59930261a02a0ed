/-
**Values from tokens.**

* `Value.ofToken`: the value of a type that one token is;
* `Value.read`: the value of a type in front of a cursor. A truth value may be left out and is then
  true, a range takes the tokens of one literal, an array takes all tokens up to the next flag, and
  everything else takes one token;
* `Value.ofTokens`: the value that consists of all of a list of tokens.
-/

import Argline.Value.Basic
import Argline.Range.Literal

namespace Argline

/-- Why a token that is read as an integer under the name of a type is not one. -/
def IntegerFault.halt (label token : String) : IntegerFault → Halt Rejection
  | .malformed => .refused (.unreadable (.integer label) (.token token))
  | .tooLong digits => .broken (.integerTooLong digits)

namespace Value

/-- The integer that a token is, under the name of a type. -/
def integerOfToken (label token : String) : Except (Halt Rejection) Int :=
  match readInteger token with
  | .ok number => .ok number
  | .error fault => .error (fault.halt label token)

/-- The 64-bit integer that a token is, under the name of a type. -/
def wordOfToken (label token : String) : Except (Halt Rejection) Word := do
  let number ← integerOfToken label token
  match Word.ofInt? number with
  | some word => pure word
  | none => .error (.refused (.unreadable (.word label) (.token token)))

/-- The one text of the unit value. -/
def unitLiteral : String := "()"

/-- The truth value that a token is, in any case. -/
def boolOfToken? (token : String) : Option Bool :=
  [("true", true), ("false", false)].lookup (lowerAscii token)

/-- The outcome that a token is: its name in any case, or its bit. -/
def outcomeOfToken? (token : String) : Option Outcome :=
  [("zero", Outcome.zero), ("one", .one), ("0", .zero), ("1", .one)].lookup (lowerAscii token)

/-- A value if there is one, and else what was expected of the token. -/
def orUnreadable (expected : Unreadable) (token : String) :
    Option Value → Except (Halt Rejection) Value
  | some value => .ok value
  | none => .error (.refused (.unreadable expected (.token token)))

/-- The value of a scalar type that a token is. -/
def scalarOfToken (kind : Scalar) (token : String) : Except (Halt Rejection) Value :=
  match kind with
  | .unit => orUnreadable .unit token (if token = unitLiteral then some .unit else none)
  | .int => (wordOfToken Scalar.int.label token).map fun word => .int word.value
  | .bigInt => (integerOfToken Scalar.bigInt.label token).map .int
  | .double => orUnreadable .double token ((readDouble token).map .double)
  | .bool => orUnreadable .bool token ((boolOfToken? token).map .bool)
  | .pauli => orUnreadable .pauli token ((Pauli.ofName? token).map .pauli)
  | .outcome => orUnreadable .outcome token ((outcomeOfToken? token).map .outcome)
  | .range => (Range.ofTokens [token]).map .range
  | .text => .ok (.text token)

/-- The value of a type that a token is. -/
def ofToken : Ty → String → Except (Halt Rejection) Value
  | .scalar kind, token => scalarOfToken kind token
  | .array element, token => .error (.refused (.unreadable (.array element) (.token token)))

/-! ### Reading from a cursor -/

/-- Read a truth value. A token that is none stays where it is. -/
def readBool (cursor : Cursor) : Except (Halt Rejection) Value × Cursor :=
  match cursor.next? with
  | none => (.ok (.bool true), cursor)
  | some (token, next) =>
    match boolOfToken? token with
    | some truth => (.ok (.bool truth), next)
    | none => (.ok (.bool true), cursor)

/-- Read every token as a value of an element type. -/
def readItems (element : Ty) (cursor : Cursor) : Except (Halt Rejection) (List Value) × Cursor :=
  match _ : cursor.next? with
  | none => (.ok [], cursor)
  | some (token, next) =>
    match ofToken element token with
    | .error halt => (.error halt, next)
    | .ok item =>
      let (rest, last) := readItems element next
      (rest.map (item :: ·), last)
termination_by cursor.remaining.length
decreasing_by exact Cursor.remaining_lt_of_next? (by assumption)

/-- Read an array, which has at least one item. -/
def readArray (element : Ty) (cursor : Cursor) : Except (Halt Rejection) Value × Cursor :=
  if cursor.atEnd then (.error (.refused (.missingElements element)), cursor)
  else
    let (items, last) := readItems element cursor
    (items.map .list, last)

/-- Read a value that is one token. -/
def readOne (type : Ty) (cursor : Cursor) : Except (Halt Rejection) Value × Cursor :=
  match cursor.next? with
  | none => (.error (.refused (.missingValue type)), cursor)
  | some (token, next) => (ofToken type token, next)

/-- Read the value of a type in front of a cursor. -/
def read (type : Ty) (cursor : Cursor) : Except (Halt Rejection) Value × Cursor :=
  match type with
  | .scalar .bool => readBool cursor
  | .scalar .range =>
    let (interval, last) := Range.read cursor
    (interval.map .range, last)
  | .array element => readArray element cursor
  | .scalar kind => readOne (.scalar kind) cursor

/-- The value of a type that a list of tokens is; every token must belong to it. -/
def ofTokens (type : Ty) (tokens : List String) : Except (Halt Rejection) Value :=
  match read type (Cursor.ofTokens tokens) with
  | (.error halt, _) => .error halt
  | (.ok value, cursor) =>
    if cursor.remaining.isEmpty then .ok value
    else .error (.refused (.unrecognized cursor.remaining none))

end Value

end Argline
