/-
**Options.**

The command line of an entry point has one option for each of its parameters, and the options that
every command line has.

* `Parameter`, `Builtin`: what options are made for;
* `Names`: the long and the short name an option is offered under, and its flags;
* `ParameterOption`, `BuiltinOption`, `Schema`: named options;
* `Arity`: how many tokens the option of a parameter takes.
-/

import Argline.Ty

namespace Argline

/-- A parameter of an entry point. -/
structure Parameter where
  /-- Its identifier. -/
  name : String
  type : Ty
  /-- Its documentation, which may be empty. -/
  doc : String := ""
  /-- Its place among the parameters, counted from zero. -/
  position : Nat := 0
deriving DecidableEq, Repr

/-- The parameters with the documentation that is kept for them by name, and numbered in their
order. A parameter without an entry keeps its text. -/
def Parameter.withDocs (docs : List (String × String)) (parameters : List Parameter) :
    List Parameter :=
  parameters.zipIdx.map fun (parameter, index) =>
    { parameter with doc := (docs.lookup parameter.name).getD parameter.doc, position := index }

/-- How many tokens an option takes. -/
inductive Arity where
  /-- One. -/
  | single
  /-- One or none. -/
  | flag
  /-- One or more. -/
  | greedy
deriving DecidableEq, Repr

/-- A truth value may be left out, a range may be cut into tokens, and an array has a token for each
item. -/
def Ty.arity : Ty → Arity
  | .scalar .bool => .flag
  | .scalar .range => .greedy
  | .scalar _ => .single
  | .array _ => .greedy

/-- The names an option is offered under. -/
structure Names where
  long : String
  short : Option String
deriving DecidableEq, Repr

/-- The flag of a long name. -/
def longFlag (name : String) : String := "--" ++ name

/-- The flag of a short name. -/
def shortFlag (name : String) : String := "-" ++ name

/-- The flags of an option, the long one first. -/
def Names.flags (names : Names) : List String :=
  longFlag names.long :: (names.short.map shortFlag).toList

/-- A parameter and the names of its option. -/
structure ParameterOption where
  parameter : Parameter
  names : Names
deriving DecidableEq, Repr

namespace ParameterOption

/-- The flags of the option. -/
def flags (option : ParameterOption) : List String := option.names.flags

/-- How many tokens the option takes. -/
def arity (option : ParameterOption) : Arity := option.parameter.type.arity

end ParameterOption

/-- An option that command lines have by themselves, with the names it would like to have. -/
structure Builtin where
  /-- What the option is for. -/
  key : String
  long : String
  short : Option String
  doc : String
  /-- Does the option take a token? -/
  takesValue : Bool := false
deriving DecidableEq, Repr

/-- A built-in option and the names it has been given, if it is offered at all. -/
structure BuiltinOption where
  builtin : Builtin
  names : Option Names
deriving DecidableEq, Repr

namespace BuiltinOption

/-- Is the option not offered? -/
def omitted (option : BuiltinOption) : Bool := option.names.isNone

/-- Is the option offered under another long name than its own? -/
def renamed (option : BuiltinOption) : Bool :=
  match option.names with
  | some names => names.long != option.builtin.long
  | none => false

/-- The flags of the option; it has none if it is not offered. -/
def flags (option : BuiltinOption) : List String :=
  match option.names with
  | some names => names.flags
  | none => []

end BuiltinOption

/-- The options of a command line. -/
structure Schema where
  parameters : List ParameterOption
  builtins : List BuiltinOption
deriving DecidableEq, Repr

/-- The built-in option of a key. -/
def Schema.builtin? (schema : Schema) (key : String) : Option BuiltinOption :=
  schema.builtins.find? fun option => option.builtin.key == key

/-! ### The built-in options -/

namespace Builtin

/-- The key of the option that shows the help page. -/
def helpKey : String := "help"

/-- The key of the option that shows the version. -/
def versionKey : String := "version"

/-- The key of the option that selects a simulator. -/
def simulatorKey : String := "simulator"

/-- The option that shows the help page. -/
def help : Builtin where
  key := helpKey
  long := "help"
  short := some "h"
  doc := "Show help and usage information."

/-- The option that shows the version. -/
def version : Builtin where
  key := versionKey
  long := "version"
  short := none
  doc := "Show version information."

/-- The option that selects a simulator. -/
def simulator : Builtin where
  key := simulatorKey
  long := "simulator"
  short := some "s"
  doc := "The name of the simulator to use."
  takesValue := true

/-- The built-in options of every command line. -/
def standard : List Builtin := [help, version, simulator]

end Builtin

end Argline
