/-
**The shortest decimal of a double.**

A double is written with the fewest digits that read back as it.

* `Magnitude.pointPosition`: the power of ten just above a magnitude;
* `Magnitude.candidate?`: of the two neighbours of a magnitude on a decimal grid, the nearer one that
  reads back, a tie going to the even one;
* `Magnitude.shortest`: the candidate of the coarsest grid that has one; seventeen digits suffice for
  every double, and were they not to suffice the exact value would be taken.
-/

import Argline.Number.Decimal

namespace Argline

namespace Magnitude

/-- The number `k` with `10^(k-1) ≤ m < 10^k` for a positive magnitude `m`, found by counting the
digits of `⌊m · 10^330⌋`, which is positive for the least magnitude too. -/
def pointPosition (magnitude : Magnitude) : Int :=
  (Nat.toDigits 10 (magnitude.units * Nat.pow 10 330 / Double.unitsInOne)).length - 330

/-- Does a decimal read back as a magnitude? -/
def readsBack (magnitude : Magnitude) (decimal : Decimal) : Bool :=
  decimal.toDouble false = .finite false magnitude

/-- The two neighbours of a magnitude among the multiples of `10^exponent`, the nearer one first. -/
def neighbours (magnitude : Magnitude) (exponent : Int) : Decimal × Decimal :=
  let numerator := magnitude.units * Nat.pow 10 (-exponent).toNat
  let denominator := Double.unitsInOne * Nat.pow 10 exponent.toNat
  let below := numerator / denominator
  if Double.roundQuotient numerator denominator = below then
    (⟨below, exponent⟩, ⟨below + 1, exponent⟩)
  else (⟨below + 1, exponent⟩, ⟨below, exponent⟩)

/-- The nearest multiple of `10^exponent` that reads back, if one of the two neighbours does. -/
def candidate? (magnitude : Magnitude) (exponent : Int) : Option Decimal :=
  let (near, far) := magnitude.neighbours exponent
  if magnitude.readsBack near then some near
  else if magnitude.readsBack far then some far
  else none

/-- A magnitude itself as a decimal: a unit is `5^1074 · 10^-1074`. -/
def exact (magnitude : Magnitude) : Decimal := ⟨magnitude.units * Nat.pow 5 1074, -1074⟩

/-- The shortest decimal that reads back. -/
def shortest (magnitude : Magnitude) : Decimal :=
  let position := magnitude.pointPosition
  ((List.range 17).findSome? fun index =>
    magnitude.candidate? (position - (index + 1 : Nat))).getD magnitude.exact

end Magnitude

/-! ### Layout -/

/-- Digits without the zeros at their end. -/
def dropFinalZeros (digits : List Char) : List Char :=
  (digits.reverse.dropWhile (· == '0')).reverse

/-- The digits of a decimal, and how many of them stand in front of the point. -/
def Decimal.layout (decimal : Decimal) : List Char × Int :=
  let digits := Nat.toDigits 10 decimal.digits
  (dropFinalZeros digits, digits.length + decimal.exponent)

/-- Digits with the point behind the first `point` of them, filled up with zeros. -/
def positional (digits : List Char) (point : Int) : List Char :=
  if point ≤ 0 then ['0', '.'] ++ List.replicate (-point).toNat '0' ++ digits
  else if digits.length ≤ point.toNat then
    digits ++ List.replicate (point.toNat - digits.length) '0' ++ ['.', '0']
  else digits.take point.toNat ++ '.' :: digits.drop point.toNat

/-- An exponent: its sign, and at least two digits. -/
def exponentChars (exponent : Int) : List Char :=
  let digits := Nat.toDigits 10 exponent.natAbs
  (if exponent < 0 then '-' else '+') :: List.replicate (2 - digits.length) '0' ++ digits

/-- Digits with the point behind the first one, and the exponent. -/
def scientific (digits : List Char) (exponent : Int) : List Char :=
  match digits with
  | [] => []
  | [digit] => digit :: 'e' :: exponentChars exponent
  | digit :: more => digit :: '.' :: more ++ 'e' :: exponentChars exponent

/-- A magnitude in decimal: positional from `10^-4` to below `10^16`, with an exponent outside. -/
def Magnitude.decimalChars (magnitude : Magnitude) : List Char :=
  if magnitude.units = 0 then ['0', '.', '0']
  else
    let (digits, point) := magnitude.shortest.layout
    if -4 < point ∧ point ≤ 16 then positional digits point else scientific digits (point - 1)

namespace Double

/-- The minus sign of a negative number. -/
def signChars (negative : Bool) : List Char := if negative then ['-'] else []

/-- The text of a double that always shows it is no integer. -/
def decimalText : Double → String
  | .nan => "nan"
  | .infinite negative => String.ofList (signChars negative ++ ['i', 'n', 'f'])
  | .finite negative magnitude => String.ofList (signChars negative ++ magnitude.decimalChars)

/-- The canonical text of a double: integers below `10^16` have no point. -/
def text (double : Double) : String :=
  match double with
  | .nan => "NaN"
  | .infinite negative => if negative then "-Infinity" else "Infinity"
  | .finite negative magnitude =>
    let whole := magnitude.units / unitsInOne
    if magnitude.units % unitsInOne = 0 ∧ whole < Nat.pow 10 16 then
      String.ofList (signChars negative ++ Nat.toDigits 10 whole)
    else double.decimalText

end Double

end Argline
