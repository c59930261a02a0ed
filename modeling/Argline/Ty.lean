/-
**The types of parameters and results.**

* `Scalar`, `Ty`: the scalar types, and arrays over them to any depth;
* `Ty.label`: the name of a type, an array being marked by brackets behind its element type;
* `Pauli`, `Outcome`: the two types whose values are a fixed list of names.
-/

import Argline.Breakage

namespace Argline

/-- The types of single values. -/
inductive Scalar where
  | unit
  | int
  | bigInt
  | double
  | bool
  | pauli
  | outcome
  | range
  | text
deriving DecidableEq, Repr

/-- The name of a scalar type. -/
def Scalar.label : Scalar → String
  | .unit => "Unit"
  | .int => "Int"
  | .bigInt => "BigInt"
  | .double => "Double"
  | .bool => "Bool"
  | .pauli => "Pauli"
  | .outcome => "Result"
  | .range => "Range"
  | .text => "String"

/-- The scalar types in their order of presentation. -/
def Scalar.all : List Scalar :=
  [.unit, .int, .bigInt, .double, .bool, .pauli, .outcome, .range, .text]

/-- The scalar type of a name. -/
def Scalar.ofLabel? (label : String) : Option Scalar :=
  Scalar.all.find? fun scalar => scalar.label == label

/-- A scalar type, or the arrays of a type. -/
inductive Ty where
  | scalar (kind : Scalar)
  | array (element : Ty)
deriving DecidableEq, Repr

namespace Ty

/-- The name of a type. -/
def label : Ty → String
  | .scalar kind => kind.label
  | .array element => element.label ++ "[]"

/-- Is a type an array type? -/
def isArray : Ty → Bool
  | .scalar _ => false
  | .array _ => true

/-- The name of the kind that array types have in common. -/
def arrayKind : String := "Array"

/-- The name of the kind of a type: its own for a scalar type, one for all arrays. -/
def kindLabel : Ty → String
  | .scalar kind => kind.label
  | .array _ => arrayKind

/-- The names of all kinds. -/
def kindLabels : List String := Scalar.all.map Scalar.label ++ [arrayKind]

/-- The type of a kind and an element type; array types have one and scalar types have none. -/
def ofKind (kind : String) (element : Option Ty) : Except Breakage Ty :=
  if kind = arrayKind then
    match element with
    | some element => .ok (.array element)
    | none => .error .misplacedElement
  else match Scalar.ofLabel? kind with
    | none => .error (.unknownKind (Text.quoted kind))
    | some found => if element.isSome then .error .misplacedElement else .ok (.scalar found)

end Ty

/-! ### Named values -/

/-- The Pauli operators on one qubit. -/
inductive Pauli where
  | i
  | x
  | y
  | z
deriving DecidableEq, Repr

namespace Pauli

/-- The operators in their order of presentation. -/
def all : List Pauli := [.i, .x, .y, .z]

/-- The name of an operator, which is also its canonical text. -/
def name : Pauli → String
  | .i => "PauliI"
  | .x => "PauliX"
  | .y => "PauliY"
  | .z => "PauliZ"

/-- The two-bit code of an operator: the low bit for a flip, the high bit for a phase. -/
def code : Pauli → Nat
  | .i => 0
  | .x => 1
  | .y => 3
  | .z => 2

/-- The operator of a name. -/
def ofName? (name : String) : Option Pauli := all.find? fun pauli => pauli.name == name

end Pauli

/-- The outcomes of a measurement. -/
inductive Outcome where
  | zero
  | one
deriving DecidableEq, Repr

namespace Outcome

/-- The outcomes in their order of presentation. -/
def all : List Outcome := [.zero, .one]

/-- The name of an outcome, which is also its canonical text. -/
def name : Outcome → String
  | .zero => "Zero"
  | .one => "One"

/-- The bit that an outcome is. -/
def code : Outcome → Nat
  | .zero => 0
  | .one => 1

end Outcome

end Argline
