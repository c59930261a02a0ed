/-
**Help templates.**

Help is written through templates: a doubled percent sign stands for one, and a percent sign opens a
directive that names a value in parentheses and says how it is written.

* `asTemplate`: a text as the template of which it is the text;
* `fill`: the text of a template, or the `TemplateFault` of its first directive that has no meaning;
* `Phase`, `step`: the reader of a template, one character at a time.

A directive is a percent sign, an optional name in balanced parentheses, marks (`-` justifies to the
left; `+`, space, `#` and `0` change nothing for texts), a least width, a point and a greatest
length, an ignored size letter, and a conversion letter. A directive without a name has no value to
write. In front of every named one it would write all values, with their names, as one; help has no
template in which one stands there, so this is left out.
-/

import Argline.Text.Quoted

namespace Argline.Text

/-- Double every percent sign. -/
def doublePercents (characters : List Char) : List Char :=
  characters.flatMap fun c => if c = '%' then ['%', '%'] else [c]

/-- The template of which a text is the text. -/
def asTemplate (text : String) : String := String.ofList (doublePercents text.toList)

/-! ### Faults -/

/-- Why a template has no text. -/
inductive TemplateFault where
  /-- The template ends inside the name of a value. -/
  | openName
  /-- The template ends inside a directive. -/
  | openDirective
  /-- No value has this name. -/
  | unknownName (name : String)
  /-- A directive without a name, which has no value to write. -/
  | noValue
  /-- A width or length is asked of the value, which is a text. -/
  | textAsWidth
  /-- A width beyond the addressable sizes. -/
  | widthTooBig
  /-- A greatest length beyond 31 bits. -/
  | lengthTooBig
  /-- A width that no text reaches. -/
  | noRoom
  /-- A conversion letter for numbers. -/
  | notNumber (conversion : Char)
  /-- A conversion letter for integers. -/
  | notInteger (conversion : Char)
  /-- A conversion letter for fractions. -/
  | notFraction
  /-- The conversion to one character, of a text that is not one character long. -/
  | notCharacter
  /-- A letter that is no conversion, and its index in the template. -/
  | unsupported (conversion : Char) (index : Nat)
deriving DecidableEq, Repr

/-- The text of a fault; an unknown name is shown quoted and nothing else. -/
def TemplateFault.message : TemplateFault → String
  | .openName => "incomplete format key"
  | .openDirective => "incomplete format"
  | .unknownName name => quoted name
  | .noValue => "not enough arguments for format string"
  | .textAsWidth => "* wants int"
  | .widthTooBig => "width too big"
  | .lengthTooBig => "precision too big"
  | .noRoom => ""
  | .notNumber conversion =>
    "%" ++ String.singleton conversion ++ " format: a real number is required, not str"
  | .notInteger conversion =>
    "%" ++ String.singleton conversion ++ " format: an integer is required, not str"
  | .notFraction => "must be real number, not str"
  | .notCharacter => "%c requires int or char"
  | .unsupported conversion index =>
    let shown := if 31 ≤ conversion.toNat ∧ conversion.toNat ≤ 126 then conversion else '?'
    "unsupported format character '" ++ String.singleton shown ++ "' (0x"
      ++ String.ofList (Nat.toDigits 16 conversion.toNat) ++ ") at index " ++ toString index

/-! ### The reader -/

/-- What a directive writes, and how. -/
structure Form where
  /-- The named value. -/
  value : Option (List Char)
  /-- Is the value justified to the left? -/
  left : Bool := false
  /-- The least width. -/
  width : Nat := 0
  /-- The greatest length. -/
  limit : Option Nat := none

/-- How far the reader of a directive has come. -/
inductive Stage where
  | marks
  | width
  | limitStart
  | limit
  | conversion

/-- Where the reader of a template stands. -/
inductive Phase where
  | plain
  | opened
  | name (depth : Nat) (read : List Char)
  | directive (stage : Stage) (form : Form)

/-- A text cut to the greatest length of a form. -/
def Form.cut (form : Form) (text : List Char) : List Char :=
  match form.limit with
  | some limit => text.take limit
  | none => text

/-- No text has as many characters as this. -/
def roomBound : Nat := 0x40000000

/-- A text filled up with spaces to the width of a form. -/
def Form.pad (form : Form) (text : List Char) : Except TemplateFault (List Char) :=
  if roomBound ≤ form.width then .error .noRoom
  else
    let padding := List.replicate (form.width - text.length) ' '
    .ok (if form.left then text ++ padding else padding ++ text)

/-- The text of a value under a conversion letter. A single character is not cut. -/
def Form.convert (form : Form) (value : List Char) (index : Nat) (c : Char) :
    Except TemplateFault (List Char) :=
  if c = 's' then form.pad (form.cut value)
  else if c = 'r' then form.pad (form.cut (quoteChars value))
  else if c = 'a' then form.pad (form.cut (quoteAscii value))
  else if c = 'c' then
    if value.length = 1 then form.pad value else .error .notCharacter
  else if c ∈ ['d', 'i', 'u'] then .error (.notNumber c)
  else if c ∈ ['o', 'x', 'X'] then .error (.notInteger c)
  else if c ∈ ['e', 'E', 'f', 'F', 'g', 'G'] then .error .notFraction
  else .error (.unsupported c index)

/-- What one character writes, and where the reader stands behind it. -/
abbrev Advance := Except TemplateFault (List Char × Phase)

/-- The conversion letter closes a directive. -/
def Form.takeConversion (form : Form) (index : Nat) (c : Char) : Advance :=
  match form.value with
  | none => .error .noValue
  | some value => (form.convert value index c).map fun text => (text, .plain)

/-- A size letter is passed over; any other character is the conversion letter. -/
def Form.takeSize (form : Form) (index : Nat) (c : Char) : Advance :=
  if c ∈ ['h', 'l', 'L'] then .ok ([], .directive .conversion form)
  else form.takeConversion index c

/-- A point opens the greatest length. -/
def Form.takePoint (form : Form) (index : Nat) (c : Char) : Advance :=
  if c = '.' then .ok ([], .directive .limitStart { form with limit := some 0 })
  else form.takeSize index c

/-- A star asks the value itself for a number, which a text is not. -/
def Form.takeStar (form : Form) : Advance :=
  .error (if form.value.isSome then .textAsWidth else .noValue)

/-- One more digit of a number. -/
def pushDigit (number : Nat) (c : Char) : Nat := 10 * number + (c.toNat - '0'.toNat)

/-- One more digit of the least width. -/
def Form.takeWidth (form : Form) (c : Char) : Advance :=
  let width := pushDigit form.width c
  if 0x8000000000000000 ≤ width then .error .widthTooBig
  else .ok ([], .directive .width { form with width })

/-- One more digit of the greatest length. -/
def Form.takeLimit (form : Form) (c : Char) : Advance :=
  let limit := pushDigit (form.limit.getD 0) c
  if 0x80000000 ≤ limit then .error .lengthTooBig
  else .ok ([], .directive .limit { form with limit := some limit })

/-- One character of a directive, behind its name. -/
def Form.take (form : Form) (index : Nat) (c : Char) : Stage → Advance
  | .marks =>
    if c = '-' then .ok ([], .directive .marks { form with left := true })
    else if c ∈ ['+', ' ', '#', '0'] then .ok ([], .directive .marks form)
    else if c = '*' then form.takeStar
    else if c.isDigit then form.takeWidth c
    else form.takePoint index c
  | .width => if c.isDigit then form.takeWidth c else form.takePoint index c
  | .limitStart =>
    if c = '*' then form.takeStar
    else if c.isDigit then form.takeLimit c
    else form.takeSize index c
  | .limit => if c.isDigit then form.takeLimit c else form.takeSize index c
  | .conversion => form.takeConversion index c

/-- One character of a template. -/
def step (values : List (String × String)) (index : Nat) (c : Char) : Phase → Advance
  | .plain => .ok (if c = '%' then ([], .opened) else ([c], .plain))
  | .opened =>
    if c = '%' then .ok (['%'], .plain)
    else if c = '(' then .ok ([], .name 0 [])
    else Form.take { value := none } index c .marks
  | .name depth read =>
    if c = '(' then .ok ([], .name (depth + 1) (c :: read))
    else if c = ')' then
      match depth with
      | outer + 1 => .ok ([], .name outer (c :: read))
      | 0 =>
        let name := String.ofList read.reverse
        match values.lookup name with
        | some value => .ok ([], .directive .marks { value := some value.toList })
        | none => .error (.unknownName name)
    else .ok ([], .name depth (c :: read))
  | .directive stage form => form.take index c stage

/-- What a template writes from a phase on. -/
def fillFrom (values : List (String × String)) :
    Nat → Phase → List Char → Except TemplateFault (List Char)
  | _, .plain, [] => .ok []
  | _, .name _ _, [] => .error .openName
  | _, _, [] => .error .openDirective
  | index, phase, c :: rest => do
    let (written, next) ← step values index c phase
    let more ← fillFrom values (index + 1) next rest
    pure (written ++ more)

/-- The text of a template under named values. A directive without a name is refused wherever it stands,
also in front of every named one. -/
def fill (values : List (String × String)) (template : String) : Except TemplateFault String :=
  (fillFrom values 0 .plain template.toList).map String.ofList

end Argline.Text
