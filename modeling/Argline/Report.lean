/-
**What an error shows of itself.**

Every error is reported with its kind, its text and, where there is one, a hint. Entry points and
simulators may raise errors of these kinds themselves, so a report stands on its own and is not tied
to the stage that made it.

* `ErrorKind`: the kinds, with `ErrorKind.parent` for the wider kind that contains one;
* `Report`: the reports, with their texts and hints.
-/

import Argline.Text.Quoted

namespace Argline

/-- The kinds of errors. -/
inductive ErrorKind where
  /-- Any error. -/
  | error
  /-- The options of an entry point cannot be named. -/
  | schema
  | duplicateName
  | unsupportedType
  /-- A command line is refused. -/
  | commandLine
  | unknownOption
  | missingValue
  | repeatedOption
  | conversion
  | rangeGrammar
  /-- An entry point fails while it runs. -/
  | invocation
  /-- A value does not belong to the type it is formatted as. -/
  | mismatch
  /-- Something the program would like to use is not there. -/
  | environment
deriving DecidableEq, Repr

namespace ErrorKind

/-- The next wider kind. -/
def parent : ErrorKind → Option ErrorKind
  | .error => none
  | .schema | .commandLine | .invocation | .mismatch | .environment => some .error
  | .duplicateName | .unsupportedType => some .schema
  | .unknownOption | .missingValue | .repeatedOption | .conversion | .rangeGrammar =>
    some .commandLine

/-- The wider kinds, the next one first. There are at most two. -/
def ancestors (kind : ErrorKind) : List ErrorKind :=
  match kind.parent with
  | none => []
  | some wider => wider :: wider.parent.toList

end ErrorKind

/-- The token that was to be converted; where an option is given no token, there is none. -/
inductive Given where
  | token (content : String)
  | nothing
deriving DecidableEq, Repr

/-- A given token as messages show it. -/
def Given.shown : Given → String
  | .token content => Text.quoted content
  | .nothing => "[]"

/-- An error as it is reported. -/
inductive Report where
  /-- An error of which nothing but its text and hint is known. -/
  | plain (kind : ErrorKind) (message : String) (hint : Option String)
  /-- A token that is not of a type, which is given by its name. -/
  | conversion (type : String) (given : Given) (hint : Option String)
  /-- Tokens that are no range, and the reason. -/
  | range (tokens : List String) (reason : String)
deriving DecidableEq, Repr

namespace Report

/-- The kind of a reported error. -/
def kind : Report → ErrorKind
  | .plain kind _ _ => kind
  | .conversion _ _ _ => .conversion
  | .range _ _ => .rangeGrammar

/-- The tokens of a refused range in one line. -/
def rangeLine (tokens : List String) : String :=
  if tokens.isEmpty then "<nothing>" else " ".intercalate tokens

/-- The text of a reported error. -/
def message : Report → String
  | .plain _ message _ => message
  | .conversion type given _ => s!"Cannot parse {given.shown} as {type}."
  | .range tokens reason => s!"Invalid range {Text.quoted (rangeLine tokens)}: {reason}."

/-- The hint of a reported error. -/
def hint : Report → Option String
  | .plain _ _ hint => hint
  | .conversion _ _ hint => hint
  | .range _ _ => some "Write ranges as start..end or start..step..end."

end Report

/-- Where an error that is reported in the place of another came from: an error of a kind, or a
failure that is known by its name only. -/
inductive Origin where
  | error (kind : ErrorKind)
  | foreign (name : String)
deriving DecidableEq, Repr

end Argline
