/-
**Integer texts.**

An integer is written in base ten with the ASCII digits, under an optional sign. Texts of more than
`digitLimit` digits are neither read nor written.

* `IntegerText.ofText?`: a text taken apart into sign and digits, `none` if it is no integer text;
* `IntegerText.value`: the integer it stands for;
* `readInteger`: both in one, under the limit;
* `writeInteger`: the one text of an integer without a plus sign and without leading zeros.
-/

namespace Argline

/-- An integer text taken apart. -/
structure IntegerText where
  /-- Is the sign a minus sign? -/
  negative : Bool
  /-- The digits, of which there is at least one. -/
  digits : List Char
deriving DecidableEq, Repr

namespace IntegerText

/-- The sign in front of a text, and what follows it. -/
def splitSign : List Char → Bool × List Char
  | '+' :: rest => (false, rest)
  | '-' :: rest => (true, rest)
  | rest => (false, rest)

/-- Take a text apart. -/
def ofChars? (characters : List Char) : Option IntegerText :=
  let (negative, digits) := splitSign characters
  if digits ≠ [] ∧ digits.all Char.isDigit then some ⟨negative, digits⟩ else none

/-- Take a text apart. -/
def ofText? (text : String) : Option IntegerText := ofChars? text.toList

/-- The integer a text stands for. -/
def value (text : IntegerText) : Int :=
  let magnitude : Int := Nat.ofDigitChars 10 text.digits 0
  if text.negative then -magnitude else magnitude

end IntegerText

/-- The most digits an integer text may have. -/
def digitLimit : Nat := 4300

/-- Why a text is not read as an integer. -/
inductive IntegerFault where
  /-- It is not a sign and digits. -/
  | malformed
  /-- It has more digits than are read. -/
  | tooLong (digits : Nat)
deriving DecidableEq, Repr

/-- The integer of a text. -/
def readInteger (text : String) : Except IntegerFault Int :=
  match IntegerText.ofText? text with
  | none => .error .malformed
  | some parts =>
    if digitLimit < parts.digits.length then .error (.tooLong parts.digits.length)
    else .ok parts.value

/-- The digits of an integer, behind a minus sign if it is negative. -/
def integerChars (number : Int) : List Char :=
  if number < 0 then '-' :: Nat.toDigits 10 number.natAbs else Nat.toDigits 10 number.natAbs

/-- The text of an integer, `none` if it would have too many digits. -/
def writeInteger (number : Int) : Option String :=
  if number.natAbs < Nat.pow 10 digitLimit then some (String.ofList (integerChars number)) else none

end Argline
