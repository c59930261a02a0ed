/-
**Binary64 numbers.**

A finite double is a sign and a magnitude, which counts units of `2^-1074`, the least positive one. A
magnitude is a significand below `2^53` shifted left by an exponent; it is kept in the one form whose
significand is at least `2^52` or whose exponent is zero. These two bounds are `0x20000000000000` and
`0x10000000000000`.

* `Magnitude.rank`, `Magnitude.ofRank`: magnitudes in ascending order are numbered `0, 1, 2, …`, and
  the number is the bit pattern;
* `Double.toBits`, `Double.ofBits`: the interchange format of a double;
* `Double.nearest`: the double nearest to a fraction of units, a tie going to the even significand;
* `Double.ofInt?`: the double nearest to an integer, unless it is infinite.
-/

namespace Argline

/-- A finite magnitude: `significand · 2^exponent` units of `2^-1074`. -/
structure Magnitude where
  significand : Nat
  exponent : Nat
  significand_lt : significand < 0x20000000000000
  exponent_le : exponent ≤ 2045
  normal : exponent = 0 ∨ 0x10000000000000 ≤ significand
deriving DecidableEq, Repr

namespace Magnitude

/-- The number of units. -/
def units (magnitude : Magnitude) : Nat := magnitude.significand * Nat.pow 2 magnitude.exponent

/-- The position among the magnitudes in ascending order. -/
def rank (magnitude : Magnitude) : Nat :=
  magnitude.exponent * 0x10000000000000 + magnitude.significand

/-- The number of finite magnitudes. -/
def count : Nat := 2047 * 0x10000000000000

/-- The magnitude at a position. -/
def ofRank (position : Nat) (inside : position < count) : Magnitude :=
  if small : position < 0x20000000000000 then ⟨position, 0, small, by omega, .inl rfl⟩
  else ⟨0x10000000000000 + position % 0x10000000000000, position / 0x10000000000000 - 1,
    by omega, by unfold count at inside; omega, by omega⟩

theorem rank_ofRank (position : Nat) (inside : position < count) :
    (ofRank position inside).rank = position := by
  unfold ofRank rank
  split <;> dsimp only <;> omega

theorem rank_lt (magnitude : Magnitude) : magnitude.rank < count := by
  have := magnitude.significand_lt
  have := magnitude.exponent_le
  unfold rank count
  omega

theorem ofRank_rank (magnitude : Magnitude) : ofRank magnitude.rank magnitude.rank_lt = magnitude := by
  obtain ⟨significand, exponent, significand_lt, exponent_le, normal⟩ := magnitude
  unfold ofRank rank
  split <;> simp only [mk.injEq] <;> dsimp only at * <;> omega

end Magnitude

/-- A double. There is one number that is none. -/
inductive Double where
  | nan
  | infinite (negative : Bool)
  | finite (negative : Bool) (magnitude : Magnitude)
deriving DecidableEq, Repr

namespace Double

/-- The double of a sign and a position among the magnitudes; past the last one it is infinite. -/
def ofRank (negative : Bool) (position : Nat) : Double :=
  if inside : position < Magnitude.count then .finite negative (.ofRank position inside)
  else .infinite negative

/-! ### Bits -/

/-- The double with these bits. -/
def ofBits (bits : UInt64) : Double :=
  let negative := decide (0x8000000000000000 ≤ bits.toNat)
  let position := bits.toNat % 0x8000000000000000
  if Magnitude.count < position then .nan else ofRank negative position

/-- The bits of a double; of the patterns that are no number, the quiet one. -/
def toBits : Double → UInt64
  | .nan => .ofNat (0x8000000000000000 - 0x8000000000000)
  | .infinite negative => .ofNat (Magnitude.count + if negative then 0x8000000000000000 else 0)
  | .finite negative magnitude => .ofNat (magnitude.rank + if negative then 0x8000000000000000 else 0)

/-! ### Rounding -/

/-- A quotient rounded to the nearest integer, a tie going to the even one. -/
def roundQuotient (numerator denominator : Nat) : Nat :=
  let quotient := numerator / denominator
  let twice := 2 * (numerator % denominator)
  if twice < denominator then quotient
  else if denominator < twice then quotient + 1
  else if quotient % 2 = 0 then quotient else quotient + 1

/-- The position of the magnitude nearest to a fraction of units. A significand that rounds up to
`2^53` is the first one of the next exponent. -/
def nearestRank (numerator denominator : Nat) : Nat :=
  let exponent := (numerator / denominator).log2 - 52
  exponent * 0x10000000000000 + roundQuotient numerator (denominator * Nat.pow 2 exponent)

/-- The double nearest to a fraction of units. -/
def nearest (negative : Bool) (numerator denominator : Nat) : Double :=
  ofRank negative (nearestRank numerator denominator)

/-- The units in the number one. -/
def unitsInOne : Nat := Nat.pow 2 1074

/-- The double nearest to an integer, unless the integer is too big for a finite one. -/
def ofInt? (number : Int) : Option Double :=
  match nearest (decide (number < 0)) (number.natAbs * unitsInOne) 1 with
  | .infinite _ => none
  | double => some double

/-- The integer a double is, if it is one. -/
def toInt? : Double → Option Int
  | .finite negative magnitude =>
    if magnitude.units % unitsInOne = 0 then
      let whole : Int := magnitude.units / unitsInOne
      some (if negative then -whole else whole)
    else none
  | _ => none

end Double

end Argline
