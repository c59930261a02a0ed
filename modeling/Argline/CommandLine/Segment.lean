/-
**The segments of a command line.**

Reading a command line begins with telling flags from other tokens. A token is read as an option if it
is a flag, or a flag with an argument behind an equals sign; after a first token `--` no token is.

* `Target`, `Schema.table`: what the flags of a schema stand for;
* `Mark`, `Mark.ofToken?`: a token that is read as an option;
* `Segment`: an option with the tokens up to the next one;
* `CommandLine.ofTokens`: a command line cut into segments. No token is lost: in front of the first
  segment stand the tokens that belong to none, and behind the last one those from `--` on.
-/

import Argline.Schema.Basic

namespace Argline

/-- What a flag stands for. -/
inductive Target where
  | parameter (option : ParameterOption)
  | builtin (option : BuiltinOption)
deriving DecidableEq, Repr

namespace Target

/-- The flags that stand for the same. -/
def flags : Target → List String
  | .parameter option => option.flags
  | .builtin option => option.flags

/-- How many tokens the option takes, if it takes tokens at all. -/
def arity : Target → Option Arity
  | .parameter option => some option.arity
  | .builtin option => if option.builtin.takesValue then some .single else none

end Target

/-- The options of a schema. -/
def Schema.targets (schema : Schema) : List Target :=
  schema.parameters.map .parameter ++ schema.builtins.map .builtin

/-- The flags of a schema with what they stand for. -/
def Schema.table (schema : Schema) : List (String × Target) :=
  schema.targets.flatMap fun target => target.flags.map fun flag => (flag, target)

/-! ### Marks -/

/-- A token that is read as an option. -/
structure Mark where
  flag : String
  target : Target
  /-- The argument behind the equals sign. -/
  inline : Option String
deriving DecidableEq, Repr

/-- The part of a token in front of its first equals sign. -/
def beforeEquals (token : String) : String :=
  String.ofList (token.toList.takeWhile (· != '='))

/-- The part of a token behind its first equals sign. -/
def behindEquals (token : String) : String :=
  String.ofList ((token.toList.dropWhile (· != '=')).drop 1)

/-- The option that a token is read as. What stands in front of an equals sign has to be a flag; then
the whole token is the flag if it is one too, and else its second part is an argument. -/
def Mark.ofToken? (table : List (String × Target)) (token : String) : Option Mark :=
  match table.lookup (beforeEquals token) with
  | none => none
  | some target =>
    match table.lookup token with
    | some whole => some ⟨token, whole, none⟩
    | none => some ⟨beforeEquals token, target, some (behindEquals token)⟩

/-! ### Segments -/

/-- An option, and the tokens behind it up to the next one. -/
structure Segment where
  mark : Mark
  tokens : List String
deriving DecidableEq, Repr

/-- A command line in segments. -/
structure CommandLine where
  /-- The tokens in front of the first segment. -/
  leading : List String
  segments : List Segment
  /-- The tokens from the first `--` on. -/
  trailing : List String
deriving DecidableEq, Repr

namespace CommandLine

/-- The token behind which no token is read as an option. -/
def terminator : String := "--"

/-- Cut tokens in front of each one that is read as an option. -/
def cut (table : List (String × Target)) : List String → List String × List Segment
  | [] => ([], [])
  | token :: rest =>
    let (tokens, segments) := cut table rest
    match Mark.ofToken? table token with
    | some mark => ([], ⟨mark, tokens⟩ :: segments)
    | none => (token :: tokens, segments)

/-- Cut a command line into segments. -/
def ofTokens (table : List (String × Target)) (tokens : List String) : CommandLine :=
  let (leading, segments) := cut table (tokens.takeWhile (· != terminator))
  { leading, segments, trailing := tokens.dropWhile (· != terminator) }

end CommandLine

end Argline
