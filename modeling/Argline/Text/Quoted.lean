/-
**Quoted text.**

How messages show a text or a byte string: between quotes, with every character that is not shown as
it is written as an escape.

* `quoteMark`: single quotes, unless the text holds a single quote and no double quote;
* `escape`: the mark, the backslash, tab, line feed and carriage return by their letters, other
  characters that are not printable by the shortest of `\xNN`, `\uNNNN` and `\UNNNNNNNN`;
* `quoted`, `quotedBytes`: the whole form.
-/

import Argline.Text.Printable

namespace Argline.Text

/-- The hexadecimal digits of a number in lower case, filled up with zeros to a width. -/
def hexDigits (width number : Nat) : List Char :=
  let digits := Nat.toDigits 16 number
  List.replicate (width - digits.length) '0' ++ digits

/-- The numeric escape of a character: two, four or eight hexadecimal digits. -/
def numericEscape (code : Nat) : List Char :=
  if code ≤ 0xFF then ['\\', 'x'] ++ hexDigits 2 code
  else if code ≤ 0xFFFF then ['\\', 'u'] ++ hexDigits 4 code
  else ['\\', 'U'] ++ hexDigits 8 code

/-- The characters that have a letter of their own behind the backslash. -/
def escapeLetter? : Char → Option Char
  | '\\' => some '\\'
  | '\t' => some 't'
  | '\n' => some 'n'
  | '\r' => some 'r'
  | _ => none

/-- One character inside quotes of the given mark. -/
def escape (mark c : Char) : List Char :=
  if c = mark then ['\\', c]
  else match escapeLetter? c with
    | some letter => ['\\', letter]
    | none => if isPrintable c then [c] else numericEscape c.toNat

/-- Double quotes serve a text that holds a single quote and no double quote. -/
def quoteMark (characters : List Char) : Char :=
  if characters.contains '\x27' && !characters.contains '\x22' then '\x22' else '\x27'

/-- The characters of a quoted text, marks included. -/
def quoteChars (characters : List Char) : List Char :=
  let mark := quoteMark characters
  mark :: characters.flatMap (escape mark) ++ [mark]

/-- A text as messages show it. -/
def quoted (text : String) : String := String.ofList (quoteChars text.toList)

/-! ### Byte strings and plain ASCII -/

/-- One byte inside quotes of the given mark; only the ASCII graphic characters stand for themselves. -/
def escapeByte (mark : Char) (byte : UInt8) : List Char :=
  let c := Char.ofNat byte.toNat
  if 0x7F ≤ byte.toNat then numericEscape byte.toNat else escape mark c

/-- A byte string as messages show it: a quoted text behind the letter b. -/
def quotedBytes (bytes : List UInt8) : String :=
  let mark := quoteMark (bytes.map fun byte => Char.ofNat byte.toNat)
  String.ofList ('b' :: mark :: bytes.flatMap (escapeByte mark) ++ [mark])

/-- The quoted form with the printable characters beyond ASCII escaped too. -/
def quoteAscii (characters : List Char) : List Char :=
  (quoteChars characters).flatMap fun c => if c.toNat < 0x80 then [c] else numericEscape c.toNat

end Argline.Text
