/-
**What is raised.**

Entry points, simulators and the objects that they return may raise something in place of what is asked
of them. Whoever reports a failure asks it for its text, and a failure need not have one: then something
else is raised where the report was to be made, which may have no text either. No more than three reports
are tried, so it does not matter that a value has finitely many of them.

* `Raised`: what may be raised;
* `Raised.text`: the text of a failure, or what is raised in its place.
-/

import Argline.Report

namespace Argline

/-- What is raised in place of a value. -/
inductive Raised where
  /-- An error of a known kind, which has a text, and where it came from. -/
  | error (report : Report) (origin : Option Origin)
  /-- A failure of which the name and the text are known. -/
  | foreign (name message : String)
  /-- A failure of which the name is known and that has no text: something else is raised whenever it
  is asked for. -/
  | textless (name : String) (instead : Raised)
  /-- An interruption by the user, with the text that is left. -/
  | interrupt (text : String)
deriving DecidableEq, Repr

namespace Raised

/-- The text of what is raised, or what is raised instead when it is asked for. -/
def text : Raised → Except Raised String
  | .error report _ => .ok report.message
  | .foreign _ message => .ok message
  | .textless _ instead => .error instead
  | .interrupt text => .ok text

end Raised

end Argline
