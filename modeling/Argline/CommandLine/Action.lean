/-
**What the segments of a command line ask for.**

* `Action`: an option with the tokens it is given;
* `Segment.actions`: the actions of a segment, and the tokens that its option does not take.

An argument behind an equals sign is the only token its option is given. Behind the short flag of an
option that takes none, its characters are read as further short flags, one by one, until one of them
takes the rest.
-/

import Argline.CommandLine.Segment
import Argline.Rejection

namespace Argline

/-- An option with the tokens it is given. -/
structure Action where
  flag : String
  target : Target
  tokens : List String
deriving DecidableEq, Repr

/-- The tokens that an option takes of the tokens behind it, and those that it leaves. -/
def Target.take (target : Target) (tokens : List String) :
    Except Misuse (List String × List String) :=
  match target.arity, tokens with
  | none, tokens => .ok ([], tokens)
  | some .single, token :: rest => .ok ([token], rest)
  | some .single, [] => .error .expectedOne
  | some .flag, token :: rest => .ok ([token], rest)
  | some .flag, [] => .ok ([], [])
  | some .greedy, [] => .error .expectedSome
  | some .greedy, tokens => .ok (tokens, [])

/-- The token of an argument behind an equals sign; an argument `--` is dropped. -/
def inlineTokens (argument : String) : List String :=
  if argument = CommandLine.terminator then [] else [argument]

/-- Does a flag begin with two hyphens? -/
def isLongFlag (flag : String) : Bool := ['-', '-'].isPrefixOf flag.toList

/-- What a segment comes to: its actions and the tokens left over, or the misuse of an option. -/
abbrev Taken := Except (Target × Misuse) (List Action × List String)

/-- The action of an option that is given tokens behind it. -/
def takeBehind (flag : String) (target : Target) (tokens : List String) : Taken :=
  match target.take tokens with
  | .ok (taken, left) => .ok ([⟨flag, target, taken⟩], left)
  | .error misuse => .error (target, misuse)

/-- The actions of an option that is given an inline argument. An option that takes no token leaves
the characters of the argument to the short flags they make. -/
def takeInline (table : List (String × Target)) (tokens : List String) :
    List Char → String → Target → Taken
  | argument, flag, target =>
    if target.arity.isSome then
      .ok ([⟨flag, target, inlineTokens (String.ofList argument)⟩], tokens)
    else if isLongFlag flag then .error (target, .ignoredInline (String.ofList argument))
    else match argument with
      | [] => .error (target, .ignoredInline (String.ofList argument))
      | c :: rest =>
        let flagOfChar := shortFlag (String.singleton c)
        match table.lookup flagOfChar with
        | none => .error (target, .ignoredInline (String.ofList argument))
        | some next => do
          let (actions, left) ←
            if rest.isEmpty then takeBehind flagOfChar next tokens
            else takeInline table tokens rest flagOfChar next
          pure (⟨flag, target, []⟩ :: actions, left)

/-- The actions of a segment and the tokens left over. -/
def Segment.actions (table : List (String × Target)) (segment : Segment) : Taken :=
  match segment.mark.inline with
  | none => takeBehind segment.mark.flag segment.mark.target segment.tokens
  | some argument =>
    takeInline table segment.tokens argument.toList segment.mark.flag segment.mark.target

end Argline
