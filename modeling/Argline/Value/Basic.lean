/-
**Values.**

What parameters receive and entry points return. Entry points are free to return a value that is not
of their type, so values are not tied to types; `Value.format` decides whether one belongs to a type.

* `Value`: the values;
* `Value.items?`, `Value.traverse?`: the items of a sequence, and a function applied to them in turn;
* `Value.typeName`: the name by which messages call the sort of a value;
* `Value.display`: a value as messages show it, which fails for an integer that is too long to write,
  and for an object that cannot be shown.
-/

import Argline.Range.Basic
import Argline.Number.Shortest

namespace Argline

/-- The values. An object is a value that belongs to no type and of which only that matters which
messages tell: the name of its sort, and the text that shows it, which may fail. -/
inductive Value where
  | unit
  | bool (value : Bool)
  | int (number : Int)
  | double (number : Double)
  | text (content : String)
  | bytes (content : List UInt8)
  | pauli (operator : Pauli)
  | outcome (bit : Outcome)
  | range (interval : Range)
  | progression (numbers : Progression)
  | list (items : List Value)
  | tuple (items : List Value)
  | object (typeName : String) (shown : Except Breakage String)

namespace Value

/-- The sort of a value by name. -/
def typeName : Value → String
  | .unit => "NoneType"
  | .bool _ => "bool"
  | .int _ => "int"
  | .double _ => "float"
  | .text _ => "str"
  | .bytes _ => "bytes"
  | .pauli _ => "Pauli"
  | .outcome _ => "Result"
  | .range _ => "RangeValue"
  | .progression _ => "range"
  | .list _ => "list"
  | .tuple _ => "tuple"
  | .object typeName _ => typeName

/-- The items of a value that is a sequence of values. -/
def items? : Value → Option (List Value)
  | .list items => some items
  | .tuple items => some items
  | .progression numbers => some (numbers.items.map .int)
  | _ => none

/-- A function that may fail, applied to the items of a value that is a sequence, as long as it
succeeds. -/
def traverse? {ε α : Type} (f : Value → Except ε α) : Value → Option (Except ε (List α))
  | .list items => some (items.mapM f)
  | .tuple items => some (items.mapM f)
  | .progression numbers => some (numbers.traverse fun number => f (.int number))
  | _ => none

/-- The results are those of the list of the items. -/
theorem traverse?_eq {ε α : Type} (f : Value → Except ε α) (value : Value) :
    value.traverse? f = value.items?.map (List.mapM f) := by
  cases value with
  | progression numbers =>
    simp only [traverse?, items?, Progression.traverse_eq_mapM_items, Option.map_some,
      List.mapM_map]
    rfl
  | _ => rfl

/-! ### Display -/

/-- Texts with a separator between them. -/
def joined (separator : String) (texts : List String) : String := separator.intercalate texts

/-- An integer as messages show it. -/
def displayInt (number : Int) : Except Breakage String :=
  match writeInteger number with
  | some digits => .ok digits
  | none => .error .integerTooBig

/-- A truth value as it is written. -/
def boolText (value : Bool) : String := if value then "True" else "False"

/-- A range as messages show it. -/
def displayRange (range : Range) : String :=
  s!"RangeValue(start={range.start.text}, step={range.step.text}, end={range.stop.text})"

/-- A progression as messages show it; a step of one is left out. -/
def displayProgression (progression : Progression) : Except Breakage String := do
  let first ← displayInt progression.first
  let bound ← displayInt progression.bound
  if progression.step = 1 then pure s!"range({first}, {bound})"
  else
    let step ← displayInt progression.step
    pure s!"range({first}, {bound}, {step})"

/-- The shown items of a tuple in parentheses; a single one is marked by a comma. -/
def tupleText : List String → String
  | [item] => "(" ++ item ++ ",)"
  | items => "(" ++ joined ", " items ++ ")"

mutual

/-- A value as messages show it. -/
def display : Value → Except Breakage String
  | .unit => .ok "None"
  | .bool value => .ok (boolText value)
  | .int number => displayInt number
  | .double number => .ok number.decimalText
  | .text content => .ok (Text.quoted content)
  | .bytes content => .ok (Text.quotedBytes content)
  | .pauli operator => .ok s!"<Pauli.{operator.name}: {operator.code}>"
  | .outcome bit => .ok s!"<Result.{bit.name}: {bit.code}>"
  | .range interval => .ok (displayRange interval)
  | .progression numbers => displayProgression numbers
  | .list items => (displayAll items).map fun texts => "[" ++ joined ", " texts ++ "]"
  | .tuple items => (displayAll items).map tupleText
  | .object _ shown => shown

/-- Values as messages show them; the first that cannot be shown decides. -/
def displayAll : List Value → Except Breakage (List String)
  | [] => .ok []
  | value :: values =>
    match display value, displayAll values with
    | .ok shown, .ok more => .ok (shown :: more)
    | .error breakage, _ => .error breakage
    | .ok _, .error breakage => .error breakage

end

end Value

end Argline
