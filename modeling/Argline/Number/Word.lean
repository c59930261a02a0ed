/-
**Signed 64-bit integers.**

* `Word`: an integer with a proof that it lies within the bounds;
* `Word.ofInt?`: the word of an integer, if it is one.
-/

import Argline.Number.Integer

namespace Argline

/-- An integer of 64 bits, sign included. -/
structure Word where
  /-- The integer. -/
  value : Int
  least_le : -0x8000000000000000 ≤ value := by decide
  lt_bound : value < 0x8000000000000000 := by decide
deriving DecidableEq, Repr

namespace Word

/-- The least word. -/
def least : Int := -0x8000000000000000

/-- The greatest word. -/
def greatest : Int := 0x7FFFFFFFFFFFFFFF

/-- The word of an integer within the bounds. -/
def ofInt? (number : Int) : Option Word :=
  if inside : -0x8000000000000000 ≤ number ∧ number < 0x8000000000000000 then
    some ⟨number, inside.1, inside.2⟩
  else none

/-- The word one. -/
def one : Word := ⟨1, by decide, by decide⟩

/-- The text of a word. -/
def text (word : Word) : String := String.ofList (integerChars word.value)

end Word

end Argline
