/-
**Lines.**

A line ends at a line feed, a carriage return, the two together, a vertical tab, a form feed, an
information separator (file, group or record), a next-line character, or a line or paragraph
separator.

* `lines`: the lines of a text without their ends; a break at the very end opens no further line;
* `squeezeBreaks`: runs of three or more line feeds cut down to two;
* `trimBreaks`: no line feeds at the two ends.
-/

namespace Argline.Text

/-- Does a character end a line by itself? -/
def isLineBreak (c : Char) : Bool :=
  c ∈ ['\n', '\x0B', '\x0C', '\r', '\x1C', '\x1D', '\x1E', '\u0085', '\u2028', '\u2029']

/-- Cut into lines; a carriage return and the line feed behind it are one break. -/
def lines : List Char → List (List Char)
  | [] => []
  | '\r' :: '\n' :: rest => [] :: lines rest
  | c :: rest =>
    if isLineBreak c then [] :: lines rest
    else match lines rest with
      | [] => [[c]]
      | line :: more => (c :: line) :: more

/-- The lines of a text. -/
def linesOf (text : String) : List String := (lines text.toList).map String.ofList

/-! ### Line feeds -/

/-- Drop every line feed that has two right before it; `seen` counts the ones right before here. -/
def squeezeAfter : Nat → List Char → List Char
  | _, [] => []
  | seen, c :: rest =>
    if c = '\n' then
      if seen < 2 then c :: squeezeAfter (seen + 1) rest else squeezeAfter seen rest
    else c :: squeezeAfter 0 rest

/-- Cut runs of three or more line feeds down to two. -/
def squeezeBreaks (characters : List Char) : List Char := squeezeAfter 0 characters

/-- Drop the line feeds at both ends. -/
def trimBreaks (characters : List Char) : List Char :=
  ((characters.dropWhile (· == '\n')).reverse.dropWhile (· == '\n')).reverse

end Argline.Text
