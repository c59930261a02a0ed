/-
**Entry points and simulators.**

An entry point is an action of a monad of its own choice, which takes a value for each of its
parameters. It runs on a simulator.

* `Entry`, `Simulator`: entry points and simulators, which may raise something in place of a value;
* `Simulator.inProcess`: the simulator that runs the entry point itself, and reports all that it raises
  as a failed invocation.
-/

import Argline.Bindings
import Argline.Schema.Basic
import Argline.Value.Basic

namespace Argline

/-- The values of parameters by name. -/
abbrev Arguments := Bindings Value

/-- An entry point. -/
structure Entry (m : Type → Type) where
  name : String
  parameters : List Parameter := []
  /-- The type of the result; none means the unit type. -/
  result : Option Ty := none
  /-- What the entry point does, for its help page. -/
  summary : String := ""
  body : Arguments → m (Except Raised Value)

/-- A simulator. -/
structure Simulator (m : Type → Type) where
  run : Entry m → Arguments → m (Except Raised Value)

namespace Simulator

/-- What an entry point of a name raises, reported as a failed invocation. An interruption is none, and
a failure that has no text is not reported. -/
def reported (name : String) : Raised → Raised
  | .error report origin =>
    if report.kind = .invocation then .error report origin
    else .error (.plain .invocation report.message report.hint) (some (.error report.kind))
  | .foreign failure message =>
    .error (.plain .invocation s!"{name} failed: {failure}: {message}" none)
      (some (.foreign failure))
  | .textless _ instead => instead
  | .interrupt text => .interrupt text

/-- The name under which the simulator that runs the entry point itself is registered. -/
def inProcessName : String := "local"

/-- The simulator that runs the entry point itself. -/
def inProcess {m : Type → Type} [Monad m] : Simulator m where
  run entry arguments := do
    match ← entry.body arguments with
    | .ok value => pure (.ok value)
    | .error raised => pure (.error (reported entry.name raised))

/-- The simulators that are registered unless others are. -/
def standard {m : Type → Type} [Monad m] : Bindings (Simulator m) :=
  [(inProcessName, inProcess)]

end Simulator

end Argline
