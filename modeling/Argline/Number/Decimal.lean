/-
**Decimal numbers.**

A decimal is a natural number times a power of ten. It is written with or without a point, and with
or without an exponent; the double of a decimal text is the one nearest to its value.

* `DecimalText.ofText?`: a text taken apart, `none` if it is no decimal text;
* `Decimal.toDouble`: the nearest double, a tie going to the even significand; beyond the greatest
  finite double it is infinite;
* `readDouble`: the double of a text, the names of the special values included.
-/

import Argline.Number.Integer
import Argline.Number.Double

namespace Argline

/-- The number `digits · 10^exponent`. -/
structure Decimal where
  digits : Nat
  exponent : Int
deriving DecidableEq, Repr

namespace Decimal

/-- The numerator of a decimal as a fraction of units. -/
def numerator (decimal : Decimal) : Nat :=
  decimal.digits * Nat.pow 10 decimal.exponent.toNat * Double.unitsInOne

/-- The denominator of a decimal as a fraction of units. -/
def denominator (decimal : Decimal) : Nat := Nat.pow 10 (-decimal.exponent).toNat

/-- The double nearest to a decimal. -/
def toDouble (negative : Bool) (decimal : Decimal) : Double :=
  Double.nearest negative decimal.numerator decimal.denominator

end Decimal

/-! ### Texts -/

/-- A decimal text taken apart. -/
structure DecimalText where
  negative : Bool
  /-- The digits in front of the point. -/
  whole : List Char
  /-- The digits behind the point. -/
  fraction : List Char
  exponent : Int
deriving DecidableEq, Repr

namespace DecimalText

/-- The digits at the start of a text, and what follows them. -/
def splitDigits (characters : List Char) : List Char × List Char :=
  (characters.takeWhile Char.isDigit, characters.dropWhile Char.isDigit)

/-- The digits behind a point, and what follows them; no point, no digits. -/
def splitFraction : List Char → List Char × List Char
  | '.' :: rest => splitDigits rest
  | rest => ([], rest)

/-- The exponent that a text consists of: nothing, or an e and an integer text. -/
def exponent? : List Char → Option Int
  | [] => some 0
  | c :: rest =>
    if c = 'e' ∨ c = 'E' then (IntegerText.ofChars? rest).map IntegerText.value else none

/-- Take a text apart: a sign, digits with at most one point among them, and an exponent. -/
def ofText? (text : String) : Option DecimalText :=
  let (negative, unsigned) := IntegerText.splitSign text.toList
  let (whole, tail) := splitDigits unsigned
  let (fraction, rest) := splitFraction tail
  if whole = [] ∧ fraction = [] then none
  else (exponent? rest).map fun exponent => ⟨negative, whole, fraction, exponent⟩

/-- The number without its sign. -/
def magnitude (text : DecimalText) : Decimal where
  digits := Nat.ofDigitChars 10 (text.whole ++ text.fraction) 0
  exponent := text.exponent - text.fraction.length

/-- Is the number below `10^-330`, by the count of its digits? It is then nearer to zero than to the
least positive double, which is above `10^-324`. -/
def vanishes (text : DecimalText) : Bool :=
  text.magnitude.digits = 0 || (text.whole ++ text.fraction).length + text.magnitude.exponent < -330

/-- Is a number that does not vanish above `10^310`, by its exponent? The finite doubles end below
`10^309`. -/
def overflows (text : DecimalText) : Bool := 310 < text.magnitude.exponent

/-- The double nearest to the number; one that is out of reach is not worked out. -/
def toDouble (text : DecimalText) : Double :=
  if text.vanishes then .ofRank text.negative 0
  else if text.overflows then .infinite text.negative
  else text.magnitude.toDouble text.negative

end DecimalText

/-- The special values by name, in lower case. -/
def specialDoubles : List (String × Double) :=
  [("nan", .nan), ("infinity", .infinite false), ("+infinity", .infinite false),
    ("-infinity", .infinite true)]

/-- The lower case of the ASCII letters of a text. -/
def lowerAscii (text : String) : String := String.ofList (text.toList.map Char.toLower)

/-- The double of a text: a special value by its name in any case, or a decimal text. -/
def readDouble (text : String) : Option Double :=
  match specialDoubles.lookup (lowerAscii text) with
  | some double => some double
  | none => (DecimalText.ofText? text).map DecimalText.toDouble

end Argline
