/-
**Canonical text.**

The text of a result is decided by its type alone, and a value that does not belong to the type has
none.

* `Value.format`: the text of a value of a type; arrays stand in brackets with commas and no spaces;
* `Value.formatResult`: the same, where no type means the unit type;
* `Mismatch`: a value that does not belong to a type.
-/

import Argline.Value.Basic

namespace Argline

/-- A value that does not belong to a type, as messages show it. -/
structure Mismatch where
  /-- The name of the type. -/
  expected : String
  /-- The sort of the value by name. -/
  typeName : String
  /-- The value as messages show it. -/
  shown : String
deriving DecidableEq, Repr

/-- The text of a mismatch. -/
def Mismatch.message (mismatch : Mismatch) : String :=
  s!"Expected a {mismatch.expected} value, got {mismatch.typeName} {mismatch.shown}."

namespace Value

/-- Why a value that does not belong to a type has no text there: the mismatch, unless the value
itself cannot be shown. -/
def misfit (expected : Ty) (value : Value) : Halt Mismatch :=
  match value.display with
  | .ok shown => .refused ⟨expected.label, value.typeName, shown⟩
  | .error breakage => .broken breakage

/-- The canonical text of an integer. -/
def formatInt (number : Int) : Except (Halt Mismatch) String :=
  match writeInteger number with
  | some digits => .ok digits
  | none => .error (.broken .integerTooBig)

/-- The canonical text of a value of a scalar type. The unit value may also be the empty tuple, and a
double may also be an integer. -/
def formatScalar (kind : Scalar) (value : Value) : Except (Halt Mismatch) String :=
  match kind, value with
  | .unit, .unit => .ok ""
  | .unit, .tuple [] => .ok ""
  | .int, .int number =>
    if (Word.ofInt? number).isSome then formatInt number
    else .error (misfit (.scalar .int) (.int number))
  | .bigInt, .int number => formatInt number
  | .double, .double number => .ok number.text
  | .double, .int number =>
    match Double.ofInt? number with
    | some nearest => .ok nearest.text
    | none => .error (.broken .doubleOverflow)
  | .bool, .bool truth => .ok (boolText truth)
  | .pauli, .pauli operator => .ok operator.name
  | .outcome, .outcome bit => .ok bit.name
  | .range, .range interval => .ok interval.text
  | .text, .text content => .ok content
  | kind, value => .error (misfit (.scalar kind) value)

/-- The canonical text of a value of a type. -/
def format : Ty → Value → Except (Halt Mismatch) String
  | .scalar kind, value => formatScalar kind value
  | .array element, value =>
    match value.traverse? (format element) with
    | some texts => texts.map fun texts => "[" ++ joined "," texts ++ "]"
    | none => .error (misfit (.array element) value)

/-- The canonical text of a result; no type means the unit type. -/
def formatResult (result : Option Ty) (value : Value) : Except (Halt Mismatch) String :=
  format (result.getD (.scalar .unit)) value

end Value

end Argline
