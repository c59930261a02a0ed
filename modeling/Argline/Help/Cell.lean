/-
**What help says of one option.**

* `Ty.form`, `ParameterOption.helpTemplate`: what follows the flag of a parameter's option, and its
  help text;
* `BuiltinOption.helpTemplate`: the help text of a built-in option;
* `Schema.usage`: the line with all options;
* `describe`: the summary of an entry point.

Help texts, the line of usage and the summary are templates (`Text.fill`). All but the line of usage
are templates of the text itself; a percent sign in the beginning of renamed built-in options stands
undoubled in the line of usage.
-/

import Argline.Schema.Basic
import Argline.Text.Blank

namespace Argline

/-- What follows the flag of an option whose value is a range. -/
def rangeForm : String := "<start>..[<step>..]<end>"

/-- What follows the flag of an option that takes items of a type. -/
def Ty.itemForm : Ty → String
  | .scalar .range => rangeForm
  | type => "<" ++ type.label ++ ">"

/-- What follows the flag of an option whose value is of a type. -/
def Ty.form : Ty → String
  | .scalar .bool => "[true|false]"
  | .array element => element.itemForm ++ " ..."
  | type => type.itemForm

/-- What follows the flag of a built-in option that takes a token. -/
def nameForm : String := "<name>"

namespace ParameterOption

/-- The help text of a parameter's option: its type in parentheses, then its documentation. -/
def helpText (option : ParameterOption) : String :=
  let label := "(" ++ option.parameter.type.label ++ ")"
  if option.parameter.doc.isEmpty then label else label ++ " " ++ option.parameter.doc

/-- The help text as a template. -/
def helpTemplate (option : ParameterOption) : String := Text.asTemplate option.helpText

/-- The flags of the option, each with what follows it. -/
def heading (option : ParameterOption) : String :=
  ", ".intercalate (option.flags.map fun flag => flag ++ " " ++ option.parameter.type.form)

/-- The option in the line of usage: its shortest flag and what follows it. -/
def usage (option : ParameterOption) : String :=
  let flag := match option.names.short with
    | some name => shortFlag name
    | none => longFlag option.names.long
  flag ++ " " ++ Text.asTemplate option.parameter.type.form

end ParameterOption

namespace BuiltinOption

/-- The help text of a built-in option. The option that selects a simulator lists the registered ones
and names the default one, as far as there are any. -/
def helpText (option : BuiltinOption) (simulators : List String) (default : String) : String :=
  if option.builtin.key = Builtin.simulatorKey then
    let names := ", ".intercalate simulators
    option.builtin.doc
      ++ (if names.isEmpty then "" else " Available: " ++ names ++ ".")
      ++ (if default.isEmpty then "" else " Default: " ++ default ++ ".")
  else option.builtin.doc

/-- The help text as a template. -/
def helpTemplate (option : BuiltinOption) (simulators : List String) (default : String) : String :=
  Text.asTemplate (option.helpText simulators default)

/-- The flags of the option, each with what follows it. -/
def heading (option : BuiltinOption) : String :=
  ", ".intercalate (option.flags.map fun flag =>
    if option.builtin.takesValue then flag ++ " " ++ nameForm else flag)

/-- The option in the line of usage, where it stands in brackets if it is offered. -/
def usage (option : BuiltinOption) : Option String :=
  option.names.map fun names =>
    "[" ++ longFlag names.long
      ++ (if option.builtin.takesValue then " " ++ nameForm else "") ++ "]"

end BuiltinOption

/-- The name of the program in templates. -/
def programKey : String := "prog"

/-- The line of usage as a template: the program, the parameters, the built-in options. -/
def Schema.usage (schema : Schema) : String :=
  " ".intercalate (("%(" ++ programKey ++ ")s")
    :: schema.parameters.map ParameterOption.usage
    ++ schema.builtins.filterMap BuiltinOption.usage)

/-- Does a list of characters occur within another? -/
def occursIn (pattern : List Char) : List Char → Bool
  | [] => pattern.isEmpty
  | c :: rest => pattern.isPrefixOf (c :: rest) || occursIn pattern rest

/-- Does a description name the program? Only then is it filled in like a template. -/
def namesProgram (description : String) : Bool :=
  occursIn ("%(" ++ programKey ++ ")").toList description.toList

/-- The description that shows as a summary without the blanks at its ends; there is none if nothing
is left. -/
def describe (summary : String) : Option String :=
  let content := Text.strip summary
  if content.isEmpty then none
  else if namesProgram content then some (Text.asTemplate content)
  else some content

end Argline
