/-
**The names of options.**

The long name of a parameter's option is its identifier in lower case, with a hyphen where a capital
follows a small letter; its short name is its first letter. Parameters are named first, in the order of
their declaration, and the built-in options take what is left.

* `hyphenated`, `initial?`: the names an identifier asks for;
* `ParameterOption.ofParameter`: the option of a parameter behind the earlier ones;
* `BuiltinOption.ofBuiltin`: the option of a built-in, renamed or left out where its name is taken;
* `Schema.ofParameters`: all of them, or the `SchemaFault` of the first parameter that cannot have an
  option.

Long names that differ only by case are the same name; short names are compared as they are.
-/

import Argline.Schema.Basic
import Argline.Report
import Argline.Text.Case
import Argline.Text.Identifier

namespace Argline

/-- An identifier from a character on, in lower case, with a hyphen before each capital that follows
a small letter. -/
def hyphenatedFrom : Option Char → List Char → List Char
  | _, [] => []
  | previous, c :: rest =>
    (if previous.any Text.isLower && Text.isUpper c then ['-'] else [])
      ++ Text.lower c ++ hyphenatedFrom (some c) rest

/-- The long name of an identifier. -/
def hyphenated (identifier : String) : String :=
  String.ofList (hyphenatedFrom none identifier.toList)

/-- The short name of an identifier: its first character in lower case, if that is a letter. -/
def initial? (identifier : String) : Option String :=
  match identifier.toList with
  | [] => none
  | c :: _ => if Text.isLetter c then some (String.ofList (Text.lower c)) else none

/-- Why an entry point has no command line. -/
inductive SchemaFault where
  /-- A parameter's name is no identifier. -/
  | notIdentifier (name : String)
  /-- A parameter's type is an array of arrays. -/
  | nestedArray (name : String) (type : Ty)
  /-- Two parameters ask for the same long name. -/
  | duplicate (earlier later : String) (long : String)
  /-- The default simulator is not among the registered ones. -/
  | unregisteredDefault (name : String) (registered : List String)
deriving DecidableEq, Repr

/-- A schema fault as it is reported. -/
def SchemaFault.report : SchemaFault → Report
  | .notIdentifier name =>
    .plain .schema s!"Parameter name {Text.quoted name} is not a valid identifier."
      (some "Option names are derived from parameter identifiers.")
  | .nestedArray name type =>
    .plain .unsupportedType
      (s!"Parameter {Text.quoted name} has type {type.label}, "
        ++ "which cannot be given on the command line.")
      (some "Nested arrays are not supported as entry point parameters.")
  | .duplicate earlier later long =>
    .plain .duplicateName
      (s!"Parameters {Text.quoted earlier} and {Text.quoted later} both map to option "
        ++ longFlag long ++ ".")
      (some "Rename one of the parameters.")
  | .unregisteredDefault name registered =>
    let names := ", ".intercalate registered
    .plain .schema s!"Default simulator {Text.quoted name} is not registered."
      (some ("Registered simulators: " ++ (if names.isEmpty then "none" else names) ++ "."))

/-! ### Parameters -/

/-- Is a type an array of arrays? -/
def Ty.isNested : Ty → Bool
  | .array element => element.isArray
  | .scalar _ => false

/-- The option of a parameter behind the options of the earlier ones. -/
def ParameterOption.ofParameter (earlier : List ParameterOption) (parameter : Parameter) :
    Except SchemaFault ParameterOption :=
  if !Text.isIdentifier parameter.name then .error (.notIdentifier parameter.name)
  else if parameter.type.isNested then .error (.nestedArray parameter.name parameter.type)
  else
    let long := hyphenated parameter.name
    match earlier.find? fun option => Text.foldText option.names.long == Text.foldText long with
    | some option => .error (.duplicate option.parameter.name parameter.name long)
    | none =>
      let taken := earlier.filterMap fun option => option.names.short
      let short := (initial? parameter.name).filter fun name => !taken.contains name
      .ok ⟨parameter, ⟨long, short⟩⟩

/-- The options of parameters behind the options of the earlier ones. -/
def ParameterOption.ofParameters (earlier : List ParameterOption) :
    List Parameter → Except SchemaFault (List ParameterOption)
  | [] => .ok earlier
  | parameter :: rest => do
    let option ← ParameterOption.ofParameter earlier parameter
    ofParameters (earlier ++ [option]) rest

/-! ### Built-in options -/

/-- What happens to a built-in option whose long name is taken. -/
inductive ShadowPolicy where
  /-- It is offered under its name behind a common beginning, if that name is free. -/
  | rename
  /-- It is not offered. -/
  | omit
deriving DecidableEq, Repr

/-- The names that are taken: long names case-folded, and short names. -/
structure Claims where
  longs : List String
  shorts : List String

namespace Claims

/-- Is a long name taken? -/
def hasLong (claims : Claims) (name : String) : Bool := claims.longs.contains (Text.foldText name)

/-- Take names too. -/
def insert (claims : Claims) (names : Names) : Claims where
  longs := Text.foldText names.long :: claims.longs
  shorts := names.short.toList ++ claims.shorts

/-- The names that the options of parameters take. -/
def ofOptions (options : List ParameterOption) : Claims :=
  options.foldl (fun claims option => claims.insert option.names) ⟨[], []⟩

end Claims

/-- The long name that a built-in option is offered under. -/
def Builtin.longUnder (builtin : Builtin) (policy : ShadowPolicy) (beginning : String)
    (claims : Claims) : Option String :=
  if !claims.hasLong builtin.long then some builtin.long
  else match policy with
    | .omit => none
    | .rename =>
      let other := beginning ++ builtin.long
      if claims.hasLong other then none else some other

/-- The names of a built-in option among the ones that are taken. -/
def BuiltinOption.ofBuiltin (policy : ShadowPolicy) (beginning : String) (claims : Claims)
    (builtin : Builtin) : BuiltinOption where
  builtin := builtin
  names := (builtin.longUnder policy beginning claims).map fun long =>
    ⟨long, builtin.short.filter fun name => !claims.shorts.contains name⟩

/-- The built-in options among the names that are taken; each takes its names from the later ones. -/
def BuiltinOption.ofBuiltins (policy : ShadowPolicy) (beginning : String) (claims : Claims) :
    List Builtin → List BuiltinOption
  | [] => []
  | builtin :: rest =>
    let option := BuiltinOption.ofBuiltin policy beginning claims builtin
    let later := match option.names with
      | some names => claims.insert names
      | none => claims
    option :: ofBuiltins policy beginning later rest

/-- What renamed built-in options begin with. -/
def standardBeginning : String := "driver-"

/-- The options of a command line. -/
def Schema.ofParameters (parameters : List Parameter) (builtins : List Builtin := Builtin.standard)
    (policy : ShadowPolicy := .rename) (beginning : String := standardBeginning) :
    Except SchemaFault Schema := do
  let options ← ParameterOption.ofParameters [] parameters
  pure ⟨options, BuiltinOption.ofBuiltins policy beginning (.ofOptions options) builtins⟩

end Argline
