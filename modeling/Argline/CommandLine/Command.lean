/-
**Reading a command line.**

The actions of the segments take place in their order, and the first one that fails, or that asks for
help or the version, decides. Then tokens left over are refused, then missing parameters; else there
is a value for each parameter.

* `Command`: what a command line is read for;
* `Command.perform`: one action;
* `Command.parse`: the values of the parameters and the simulator, or what stopped the reading.
-/

import Argline.CommandLine.Action
import Argline.CommandLine.Slots
import Argline.Value.Reading
import Argline.Help.Page

namespace Argline

/-- What a command line is read for. -/
structure Command where
  /-- The name of the program. -/
  program : String
  /-- The version of the program. -/
  version : String
  /-- What the program does. -/
  summary : String
  schema : Schema
  /-- The names of the registered simulators. -/
  simulators : List String
  defaultSimulator : String
  /-- The width of the help page; zero if it is not known. -/
  columns : Nat
deriving DecidableEq, Repr

/-- A request for a text instead of a run. -/
structure Request where
  /-- The key of the built-in option that asks for the text. -/
  key : String
  text : String
deriving DecidableEq, Repr

/-- What stops the reading of a command line. -/
inductive Stop where
  | rejected (rejection : Rejection)
  | requested (request : Request)
deriving DecidableEq, Repr

/-- What a command line comes to: a value for each parameter, and the simulator to run on. The
simulator is a text unless a parameter shares its slot. -/
structure Call where
  arguments : List (String × Value)
  simulator : Value

/-- Stop with a rejection. -/
def reject {α : Type} (rejection : Rejection) : Except (Halt Stop) α :=
  .error (.refused (.rejected rejection))

/-- A failure to read a value stops the reading of a command line. -/
def orReject {α : Type} : Except (Halt Rejection) α → Except (Halt Stop) α
  | .ok value => .ok value
  | .error (.refused rejection) => reject rejection
  | .error (.broken breakage) => .error (.broken breakage)

/-- A failure outside every kind breaks off whatever is going on. -/
def orBreak {ε α : Type} : Except Breakage α → Except (Halt ε) α
  | .ok value => .ok value
  | .error breakage => .error (.broken breakage)

namespace Command

/-- The advice to ask for help, if help is offered. -/
def advice (command : Command) : Option String :=
  match command.schema.builtin? Builtin.helpKey with
  | some { names := some names, .. } =>
    some s!"Run with {longFlag names.long} to list the available options."
  | _ => none

/-- The help page. -/
def helpText (command : Command) : Except Breakage String :=
  let page := HelpPage.ofSchema command.program command.summary command.schema command.simulators
    command.defaultSimulator
  match page.render command.columns with
  | .ok content => .ok content
  | .error fault => .error (.template fault)

/-- The line that shows the version. -/
def versionText (command : Command) : String := command.program ++ " " ++ command.version ++ "\n"

/-- The request of a built-in option. -/
def request (command : Command) (key : String) : Except Breakage Request :=
  if key = Builtin.versionKey then .ok ⟨key, command.versionText⟩
  else command.helpText.map fun content => ⟨key, content⟩

/-- Select a simulator by the token given for it. -/
def selectSimulator (command : Command) (tokens : List String) : Except (Halt Stop) Value :=
  match tokens with
  | [name] =>
    if command.simulators.contains name then .ok (.text name)
    else reject (.unreadable (.simulator command.simulators) (.token name))
  | _ => reject (.unreadable (.simulator command.simulators) .nothing)

/-- Let an action take place. -/
def perform (command : Command) (slots : Slots) (action : Action) : Except (Halt Stop) Slots :=
  match action.target with
  | .parameter option =>
    if slots.contains option.parameter.name then reject (.repeated action.flag)
    else do
      let value ← orReject (Value.ofTokens option.parameter.type action.tokens)
      pure (slots.insert option.parameter.name value)
  | .builtin option =>
    if option.builtin.takesValue then
      if slots.contains simulatorSlot then reject (.repeated action.flag)
      else do
        let name ← command.selectSimulator action.tokens
        pure (slots.insert simulatorSlot name)
    else do
      let request ← orBreak (command.request option.builtin.key)
      .error (.refused (.requested request))

/-- Let the actions of a segment take place; the tokens it leaves are added to those left over. -/
def performSegment (command : Command) (state : Slots × List String) (segment : Segment) :
    Except (Halt Stop) (Slots × List String) :=
  match segment.actions command.schema.table with
  | .error (target, misuse) => reject (.misused target.flags misuse command.advice)
  | .ok (actions, left) => do
    let slots ← actions.foldlM command.perform state.1
    pure (slots, state.2 ++ left)

/-- The values stored by a command line, and the tokens it leaves over. -/
def scan (command : Command) (tokens : List String) : Except (Halt Stop) (Slots × List String) := do
  let line := CommandLine.ofTokens command.schema.table tokens
  let (slots, left) ← line.segments.foldlM command.performSegment (.empty, line.leading)
  pure (slots, left ++ line.trailing)

/-- The long flags of the parameters under whose names nothing is stored. -/
def missing (command : Command) (slots : Slots) : List String :=
  (command.schema.parameters.filter fun option => !slots.contains option.parameter.name).map
    fun option => longFlag option.names.long

/-- The values stored, as a call. -/
def call (command : Command) (slots : Slots) : Call where
  arguments := command.schema.parameters.map fun option =>
    (option.parameter.name, slots.get option.parameter.name)
  simulator := (slots.get? simulatorSlot).getD (.text command.defaultSimulator)

/-- Read a command line. -/
def parse (command : Command) (tokens : List String) : Except (Halt Stop) Call := do
  let (slots, left) ← command.scan tokens
  let surplus ← orBreak slots.surplus
  if left.isEmpty && surplus.isEmpty then
    let kept := slots.erase surplusSlot
    let missing := command.missing kept
    if missing.isEmpty then pure (command.call kept)
    else reject (.missingOptions missing command.advice)
  else
    let texts ← orBreak (textsFrom left.length surplus)
    reject (.unrecognized (left ++ texts) command.advice)

end Command

end Argline
