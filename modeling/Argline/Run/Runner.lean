/-
**Runs.**

A run reads a command line, runs the entry point on the simulator that is selected, and formats the
result. It ends with a status, and either with an output or with an error, unless it breaks off.

* `Runner.ofEntry`: an entry point with its command line;
* `Runner.invoke`, `Runner.format`: the second and the third stage;
* `Runner.run`: a whole run, with the states it went through.
-/

import Argline.Run.Entry
import Argline.CommandLine.Command
import Argline.Value.Format
import Argline.Schema.Build

namespace Argline

/-! ### How runs end -/

/-- How a program ends. -/
inductive Status where
  | success
  /-- The entry point failed, or its result has no text. -/
  | failed
  /-- The command line was refused, and nothing was run. -/
  | rejected
  /-- A failure outside every kind. -/
  | unexpected
  /-- The user interrupted the program. -/
  | interrupted
deriving DecidableEq, Repr

/-- The exit code of a status. An interruption has the code of its signal behind 128. -/
def Status.code : Status → Nat
  | .success => 0
  | .failed => 1
  | .rejected => 2
  | .unexpected => 3
  | .interrupted => 130

/-- The states a run goes through. -/
inductive State where
  | idle
  | parsing
  | invoking
  | formatting
  | reportingError
  | done
deriving DecidableEq, Repr

/-- Why an invocation failed. -/
inductive InvocationFault where
  /-- The simulator says so. -/
  | signalled (message : String) (hint : Option String) (origin : Option Origin)
  /-- The simulator failed itself. -/
  | simulator (name : String) (message : String) (origin : Origin)
  /-- The result does not belong to the type of the entry point's results, as a message says. -/
  | result (entry : String) (message : String)
deriving DecidableEq, Repr

namespace InvocationFault

/-- A failed invocation as it is reported. -/
def report : InvocationFault → Report
  | .signalled message hint _ => .plain .invocation message hint
  | .simulator name message _ =>
    .plain .invocation s!"Simulator {Text.quoted name} failed: {message}" none
  | .result entry message =>
    .plain .invocation
      (s!"{entry} returned a value that does not match its return type: " ++ message) none

/-- What a failed invocation came from. -/
def origin : InvocationFault → Option Origin
  | .signalled _ _ origin => origin
  | .simulator _ _ origin => some origin
  | .result _ _ => some (.error .mismatch)

end InvocationFault

/-- The error that ended a run. -/
inductive RunError where
  | rejected (rejection : Rejection)
  | failed (fault : InvocationFault)
deriving DecidableEq, Repr

namespace RunError

/-- The error as it is reported. -/
def report : RunError → Report
  | .rejected rejection => rejection.report
  | .failed fault => fault.report

/-- What the error came from. -/
def origin : RunError → Option Origin
  | .rejected rejection => rejection.origin
  | .failed fault => fault.origin

end RunError

/-- How a run ended. -/
structure Exit where
  status : Status
  /-- What is to be written, byte for byte. -/
  output : String
  error : Option RunError
  states : List State
deriving DecidableEq, Repr

/-! ### Runners -/

/-- The settings of a runner. -/
structure Settings where
  /-- The name of the program; the name of the entry point serves if there is none. -/
  program : Option String := none
  version : Option String := none
  policy : ShadowPolicy := .rename
  /-- What renamed built-in options begin with. -/
  beginning : String := standardBeginning
  defaultSimulator : String := Simulator.inProcessName
  /-- The width of the help page; zero if it is not known. -/
  columns : Nat := 0
deriving DecidableEq, Repr

/-- The version of this library, which stands in for the version of a program. -/
def libraryVersion : String := "0.1.0"

/-- A text that is not empty, or else another. -/
def orElseText (text : Option String) (other : String) : String :=
  match text with
  | some content => if content.isEmpty then other else content
  | none => other

/-- An entry point with its simulators and its command line. -/
structure Runner (m : Type → Type) where
  entry : Entry m
  simulators : Bindings (Simulator m)
  command : Command

namespace Runner

variable {m : Type → Type} [Monad m]

/-- The runner of an entry point. Of simulators registered under one name the last one holds. The
default simulator has to be registered, and each parameter has to have an option. -/
def ofEntry (entry : Entry m) (settings : Settings := {})
    (simulators : List (String × Simulator m) := Simulator.standard) :
    Except SchemaFault (Runner m) :=
  let registered := Bindings.ofPairs simulators
  let names := registered.map Prod.fst
  if !names.contains settings.defaultSimulator then
    .error (.unregisteredDefault settings.defaultSimulator names)
  else do
    let schema ← Schema.ofParameters entry.parameters Builtin.standard settings.policy
      settings.beginning
    pure {
      entry
      simulators := registered
      command := {
        program := orElseText settings.program entry.name
        version := orElseText settings.version libraryVersion
        summary := entry.summary
        schema
        simulators := names
        defaultSimulator := settings.defaultSimulator
        columns := settings.columns } }

/-- The simulator under a key, with its name. -/
def simulator (runner : Runner m) (key : Value) : Except Breakage (String × Simulator m) :=
  match key with
  | .text name =>
    (Bindings.get runner.simulators name).map fun simulator => (name, simulator)
  | .list items => .error (.unhashable (Value.list items).typeName)
  | .object typeName _ => .error (.unhashable typeName)
  | key => key.display.bind fun shown => .error (.missingKey shown)

/-- What is raised where a failure is to be reported: the run breaks off, unless it is a failed
invocation itself. -/
def unreported : Raised → Halt InvocationFault
  | .error report origin =>
    if report.kind = .invocation then .refused (.signalled report.message report.hint origin)
    else .broken (.raised (.error report origin))
  | raised => .broken (.raised raised)

/-- What a simulator of a name raises, as a failed invocation. -/
def raisedBy (name : String) : Raised → Halt InvocationFault
  | .error report origin =>
    if report.kind = .invocation then .refused (.signalled report.message report.hint origin)
    else .refused (.simulator name report.message (.error report.kind))
  | .foreign failure message => .refused (.simulator name message (.foreign failure))
  | .textless _ instead => unreported instead
  | .interrupt text => .broken (.raised (.interrupt text))

/-- Run the entry point on the simulator of a call. -/
def invoke (runner : Runner m) (call : Call) : m (Except (Halt InvocationFault) Value) :=
  match runner.simulator call.simulator with
  | .error breakage => pure (.error (.broken breakage))
  | .ok (name, simulator) => do
    match ← simulator.run runner.entry call.arguments with
    | .ok value => pure (.ok value)
    | .error raised => pure (.error (raisedBy name raised))

/-- What is raised where the result of an entry point of a name is to be shown: an error that a value
does not belong to a type counts as one of the result. -/
def unshown (entry : String) : Raised → Halt InvocationFault
  | .error report origin =>
    if report.kind = .mismatch then .refused (.result entry report.message)
    else unreported (.error report origin)
  | raised => unreported raised

/-- The canonical text of a result of the entry point. -/
def format (runner : Runner m) (value : Value) : Except (Halt InvocationFault) String :=
  match value.formatResult runner.entry.result with
  | .ok content => .ok content
  | .error (.refused mismatch) => .error (.refused (.result runner.entry.name mismatch.message))
  | .error (.broken (.raised raised)) => .error (unshown runner.entry.name raised)
  | .error (.broken breakage) => .error (.broken breakage)

/-- A run that ended with a request. -/
def requested (request : Request) : Exit :=
  ⟨.success, request.text, none, [.idle, .parsing, .done]⟩

/-- A run whose command line was refused. -/
def rejected (rejection : Rejection) : Exit :=
  ⟨.rejected, "", some (.rejected rejection), [.idle, .parsing, .reportingError, .done]⟩

/-- A run whose invocation failed. -/
def failed (fault : InvocationFault) : Exit :=
  ⟨.failed, "", some (.failed fault), [.idle, .parsing, .invoking, .done]⟩

/-- A run whose invocation returned a value. -/
def returned (runner : Runner m) (value : Value) : Except Breakage Exit :=
  let states : List State := [.idle, .parsing, .invoking, .formatting, .done]
  match runner.format value with
  | .ok content => .ok ⟨.success, content, none, states⟩
  | .error (.refused fault) => .ok ⟨.failed, "", some (.failed fault), states⟩
  | .error (.broken breakage) => .error breakage

/-- Run once. -/
def run (runner : Runner m) (tokens : List String) : m (Except Breakage Exit) :=
  match runner.command.parse tokens with
  | .error (.broken breakage) => pure (.error breakage)
  | .error (.refused (.requested request)) => pure (.ok (requested request))
  | .error (.refused (.rejected rejection)) => pure (.ok (rejected rejection))
  | .ok call => do
    match ← runner.invoke call with
    | .error (.broken breakage) => pure (.error breakage)
    | .error (.refused fault) => pure (.ok (failed fault))
    | .ok value => pure (runner.returned value)

end Runner

end Argline
