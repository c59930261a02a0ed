/-
**Failures outside every kind of error.**

A stage either refuses its input for a cause of its own kind, which is reported and ends the run in
an orderly way, or the run breaks off: a number is too long to be read or written, a key is missing,
something is raised that no stage reports, as when the user interrupts.

* `Breakage`: the ways in which a run breaks off, with their texts;
* `Halt`: why a stage did not finish.
-/

import Argline.Text.Template
import Argline.Number.Word
import Argline.Raised

namespace Argline

/-- A failure that is no error of the command line, of the entry point or of its result. -/
inductive Breakage where
  /-- An integer text has more digits than are read. -/
  | integerTooLong (digits : Nat)
  /-- An integer has more digits than are written. -/
  | integerTooBig
  /-- An integer is beyond the finite doubles. -/
  | doubleOverflow
  /-- A value that is not made of parts is asked for its parts. -/
  | notIterable (typeName : String)
  /-- A value that can change is used as a key. -/
  | unhashable (typeName : String)
  /-- A part that is no text is joined with texts. -/
  | notText (index : Nat) (typeName : String)
  /-- Nothing is stored under a key, which is shown as messages show values. -/
  | missingKey (shown : String)
  /-- A cursor at its end is told to advance. -/
  | exhausted
  /-- A component of a range is no 64-bit integer. -/
  | outsideWord (component : String) (number : String)
  /-- The members of a range with step zero are asked for. -/
  | zeroStep
  /-- A scalar type has an element type, or an array type has none. -/
  | misplacedElement
  /-- There is no type of a name, which is shown quoted. -/
  | unknownKind (shown : String)
  /-- A help template has no text. -/
  | template (fault : Text.TemplateFault)
  /-- The numbers of a progression are to be zero apart. -/
  | zeroDistance
  /-- Something is raised that is not reported: an interruption by the user, or what is raised where a
  failure is asked for its text or an object is to be shown. -/
  | raised (raised : Raised)
deriving DecidableEq, Repr

/-- The text that names the limit on integer texts. -/
def limitText : String :=
  s!"Exceeds the limit ({digitLimit} digits) for integer string conversion"

/-- The advice on that limit. -/
def limitAdvice : String := "; use sys.set_int_max_str_digits() to increase the limit"

/-- The text of a failure, or what is raised instead when it is asked for. -/
def Breakage.text : Breakage → Except Raised String
  | .integerTooLong digits => .ok (limitText ++ s!": value has {digits} digits" ++ limitAdvice)
  | .integerTooBig => .ok (limitText ++ limitAdvice)
  | .doubleOverflow => .ok "int too large to convert to float"
  | .notIterable typeName => .ok ("'" ++ typeName ++ "' object is not iterable")
  | .unhashable typeName => .ok ("unhashable type: '" ++ typeName ++ "'")
  | .notText index typeName =>
    .ok s!"sequence item {index}: expected str instance, {typeName} found"
  | .missingKey shown => .ok shown
  | .exhausted => .ok "No value token left."
  | .outsideWord component number => .ok s!"Range {component} {number} is outside the 64-bit range."
  | .zeroStep => .ok "Cannot iterate a range with step 0."
  | .misplacedElement => .ok "Only array types carry an element type."
  | .unknownKind shown => .ok s!"{shown} is not a valid Kind"
  | .template fault => .ok fault.message
  | .zeroDistance => .ok "range() arg 3 must not be zero"
  | .raised instead => instead.text

/-- Why a stage did not finish. -/
inductive Halt (ε : Type) where
  /-- It refused its input. -/
  | refused (cause : ε)
  /-- The run broke off. -/
  | broken (breakage : Breakage)
deriving DecidableEq, Repr

end Argline
