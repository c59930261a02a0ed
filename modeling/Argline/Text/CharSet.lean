/-
**Sets of characters, as ranges of code points.**

A property of characters that is data of the Unicode standard is kept as closed ranges of code
points that ascend and do not touch, so that membership stops at the first range past the character.

* `CharSet.contains`: membership;
* `CharSet.within`, `CharSet.withinAlternating`: membership in a list of ranges, and in a list of
  ranges of which every second code point counts.
-/

namespace Argline.Text

/-- A set of characters. -/
structure CharSet where
  /-- Closed ranges all of whose code points belong to the set, ascending. -/
  ranges : List (Nat × Nat)
  /-- Closed ranges of which the first, third, fifth … code point belongs to the set, ascending. -/
  alternating : List (Nat × Nat) := []

namespace CharSet

/-- Does a code point lie in one of the ascending ranges? -/
def within : List (Nat × Nat) → Nat → Bool
  | [], _ => false
  | (first, last) :: rest, code => if code ≤ last then first ≤ code else within rest code

/-- Does a code point lie at an even distance from the start of one of the ascending ranges? -/
def withinAlternating : List (Nat × Nat) → Nat → Bool
  | [], _ => false
  | (first, last) :: rest, code =>
    if code ≤ last then first ≤ code && (code - first) % 2 == 0 else withinAlternating rest code

/-- Membership of a character. -/
def contains (set : CharSet) (c : Char) : Bool :=
  within set.ranges c.toNat || withinAlternating set.alternating c.toNat

end CharSet

end Argline.Text
