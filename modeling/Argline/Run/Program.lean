/-
**Programs.**

A program runs its entry point once, writes the output to the standard output, and errors to the
standard error, where nothing else is written. At the boundary of its process it ends for whatever has
happened, unless what it is to report has no text.

* `Report.diagnostic`: the lines of an error, and of its hint if it has one;
* `Runner.main`: a run with what it writes;
* `Program.run`: the same for a program, which has to be named first;
* `Program.guarded`: a program at the boundary of its process, where nothing breaks off that can be
  reported.
-/

import Argline.Run.Runner

namespace Argline

/-- A line on the standard error. -/
def diagnosticLine (content : String) : String := content ++ "\n"

/-- The lines of an error text and a hint, which is left out if it is empty. -/
def diagnosticLines (message : String) (hint : Option String) : String :=
  diagnosticLine ("Error: " ++ message)
    ++ (match hint with
      | some advice => if advice.isEmpty then "" else diagnosticLine ("Hint: " ++ advice)
      | none => "")

/-- The lines of an error. -/
def Report.diagnostic (report : Report) : String := diagnosticLines report.message report.hint

/-- The lines of what is raised, or what is raised instead; a failure that is not of a known kind has no
hint. -/
def Raised.diagnostic : Raised → Except Raised String
  | .error report _ => .ok report.diagnostic
  | raised => raised.text.map fun message => diagnosticLines message none

/-- The lines of a notice: its plain form if it has one, and the form with markup otherwise. -/
def notice (markup : String) (plain : Option String) : String := diagnosticLine (plain.getD markup)

/-- The error of a console that was to be styled where styling is not available. -/
def stylingUnavailable : Report :=
  .plain .environment "rich is not installed. Install with: pip install rich" none

/-- What a program leaves behind. -/
structure Transcript where
  status : Status
  /-- What is written to the standard output. -/
  output : String
  /-- What is written to the standard error. -/
  diagnostics : String
deriving DecidableEq, Repr

/-- What a run leaves behind. -/
def Exit.transcript (exit : Exit) : Transcript where
  status := exit.status
  output := exit.output
  diagnostics := match exit.error with
    | some error => error.report.diagnostic
    | none => ""

namespace Runner

variable {m : Type → Type} [Monad m]

/-- Run once and write. -/
def main (runner : Runner m) (tokens : List String) : m (Except Breakage Transcript) := do
  match ← runner.run tokens with
  | .ok exit => pure (.ok exit.transcript)
  | .error breakage => pure (.error breakage)

end Runner

namespace Program

variable {m : Type → Type} [Monad m]

/-- Name the options of an entry point, run once and write. -/
def run (entry : Entry m) (settings : Settings) (simulators : List (String × Simulator m))
    (tokens : List String) : m (Except (Halt SchemaFault) Transcript) :=
  match Runner.ofEntry entry settings simulators with
  | .error fault => pure (.error (.refused fault))
  | .ok runner => do
    match ← runner.main tokens with
    | .ok transcript => pure (.ok transcript)
    | .error breakage => pure (.error (.broken breakage))

/-- What a program leaves behind that breaks off, unless it fails to report it: then it ends with what
is raised instead. -/
def broken : Breakage → Except Raised Transcript
  | .raised (.interrupt _) => .ok ⟨.interrupted, "", diagnosticLine "\nAborted by user."⟩
  | .raised (.error report _) => .ok ⟨.unexpected, "", report.diagnostic⟩
  | breakage => breakage.text.map fun message =>
    ⟨.unexpected, "",
      diagnosticLine "Unexpected error. Please report this issue." ++ diagnosticLines message none⟩

/-- Run a program at the boundary of its process. -/
def guarded (entry : Entry m) (settings : Settings) (simulators : List (String × Simulator m))
    (tokens : List String) : m (Except Raised Transcript) := do
  match ← run entry settings simulators tokens with
  | .ok transcript => pure (.ok transcript)
  | .error (.refused fault) => pure (.ok ⟨.unexpected, "", fault.report.diagnostic⟩)
  | .error (.broken breakage) => pure (broken breakage)

end Program

end Argline
