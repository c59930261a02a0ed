/-
**Blank characters.**

White space of Unicode 14.0 together with the four information separators of ASCII.

* `isBlank`: membership;
* `strip`: a text without the blanks at its two ends.
-/

import Argline.Text.CharSet

namespace Argline.Text

/-- The blank characters. -/
def blanks : CharSet where
  ranges := [
    (0x9, 0xD), (0x1C, 0x20), (0x85, 0x85), (0xA0, 0xA0), (0x1680, 0x1680), (0x2000, 0x200A),
    (0x2028, 0x2029), (0x202F, 0x202F), (0x205F, 0x205F), (0x3000, 0x3000)]

/-- Is a character blank? -/
def isBlank (c : Char) : Bool := blanks.contains c

/-- Drop the blanks at both ends. -/
def stripBlanks (characters : List Char) : List Char :=
  ((characters.dropWhile isBlank).reverse.dropWhile isBlank).reverse

/-- A text without the blanks at its ends. -/
def strip (text : String) : String := String.ofList (stripBlanks text.toList)

end Argline.Text
