/-
**Why a command line is refused.**

* `RangeFault`: what is wrong with the tokens of a range;
* `Unreadable`: what a token was expected to be;
* `Misuse`: an option that is given too few tokens, or one too many;
* `Rejection`: the causes for which a command line is refused, and `Rejection.report`.
-/

import Argline.Report
import Argline.Ty

namespace Argline

/-- What is wrong with the tokens of a range. -/
inductive RangeFault where
  /-- A token is empty. -/
  | emptyToken
  /-- There is nothing between two separators. -/
  | emptyComponent
  /-- A component is no 64-bit integer. -/
  | notWord (fragment : String)
  /-- A separator comes before any number. -/
  | missingStart
  /-- Two separators follow one another. -/
  | doubledSeparator
  /-- There is a fourth component, or a token behind the third one. -/
  | tooMany
  /-- A separator comes last. -/
  | dangling
  /-- There are fewer than two numbers. -/
  | tooFew
deriving DecidableEq, Repr

namespace RangeFault

/-- The reason a fault gives. -/
def reason : RangeFault → String
  | .emptyToken => "empty token"
  | .emptyComponent => "empty component between separators"
  | .notWord fragment => s!"{Text.quoted fragment} is not a 64-bit integer"
  | .missingStart => "missing start"
  | .doubledSeparator => "two separators in a row"
  | .tooMany => "more than three components"
  | .dangling => "separator without a following number"
  | .tooFew => "expected at least a start and an end"

/-- Does a fault lie within one token, so that it shows before the token is put together with
others? -/
def isLexical : RangeFault → Bool
  | .emptyToken | .emptyComponent | .notWord _ => true
  | _ => false

end RangeFault

/-- What a token was expected to be. -/
inductive Unreadable where
  /-- An integer, under the name of a type. -/
  | integer (label : String)
  /-- An integer of 64 bits, under the name of a type; it is an integer. -/
  | word (label : String)
  | double
  | unit
  | bool
  | pauli
  | outcome
  /-- An array, which no single token is. -/
  | array (element : Ty)
  /-- One of the registered simulators. -/
  | simulator (registered : List String)
deriving DecidableEq, Repr

namespace Unreadable

/-- The name of what was expected. -/
def label : Unreadable → String
  | .integer label => label
  | .word label => label
  | .double => Scalar.double.label
  | .unit => Scalar.unit.label
  | .bool => Scalar.bool.label
  | .pauli => Scalar.pauli.label
  | .outcome => Scalar.outcome.label
  | .array element => (Ty.array element).label
  | .simulator _ => "Simulator"

/-- What to give instead. -/
def hint : Unreadable → Option String
  | .integer _ => none
  | .word _ => some s!"Values must lie between {Word.least} and {Word.greatest}."
  | .double => none
  | .unit => some "The only Unit value is ()."
  | .bool => some "Use true or false."
  | .pauli => some "Use PauliI, PauliX, PauliY or PauliZ."
  | .outcome => some "Use Zero, One, 0 or 1."
  | .array _ => none
  | .simulator registered =>
    some ("Available simulators: " ++ ", ".intercalate registered ++ ".")

end Unreadable

/-- How an option is misused. -/
inductive Misuse where
  /-- It takes one token and is given none. -/
  | expectedOne
  /-- It takes tokens and is given none. -/
  | expectedSome
  /-- It takes no token and is given one inline. -/
  | ignoredInline (argument : String)
deriving DecidableEq, Repr

/-- The text of a misuse. -/
def Misuse.text : Misuse → String
  | .expectedOne => "expected one argument"
  | .expectedSome => "expected at least one argument"
  | .ignoredInline argument => s!"ignored explicit argument {Text.quoted argument}"

/-- The cause for which a command line is refused. Where there is an advice to ask for help, it is
part of the cause. -/
inductive Rejection where
  /-- Tokens that belong to no option. -/
  | unrecognized (tokens : List String) (advice : Option String)
  /-- Options that are required and not given, by their long flags. -/
  | missingOptions (flags : List String) (advice : Option String)
  /-- An option, by its flags, that is not given the tokens it takes. -/
  | misused (flags : List String) (misuse : Misuse) (advice : Option String)
  /-- No token where a value of a type is expected. -/
  | missingValue (type : Ty)
  /-- No token where values of an element type are expected. -/
  | missingElements (element : Ty)
  /-- An option, by the flag in question, that is given a second time. -/
  | repeated (flag : String)
  /-- A token that is not what was expected. -/
  | unreadable (expected : Unreadable) (given : Given)
  /-- Tokens that are no range. -/
  | range (tokens : List String) (fault : RangeFault)
deriving DecidableEq, Repr

namespace Rejection

/-- A rejection as it is reported. -/
def report : Rejection → Report
  | .unrecognized tokens advice =>
    .plain .unknownOption ("Unrecognized argument(s): " ++ " ".intercalate tokens) advice
  | .missingOptions flags advice =>
    .plain .missingValue ("Missing required option(s): " ++ ", ".intercalate flags) advice
  | .misused flags misuse advice =>
    .plain .missingValue ("Argument " ++ "/".intercalate flags ++ ": " ++ misuse.text ++ ".") advice
  | .missingValue type => .plain .missingValue s!"Expected a {type.label} value." none
  | .missingElements element =>
    .plain .missingValue s!"Expected at least one {element.label} value." none
  | .repeated flag => .plain .repeatedOption s!"Option {flag} was given more than once." none
  | .unreadable expected given => .conversion expected.label given expected.hint
  | .range tokens fault => .range tokens fault.reason

/-- What a rejection came from: a range is first refused on account of one token, where the fault lies
within it. -/
def origin : Rejection → Option Origin
  | .range _ fault => if fault.isLexical then some (.error .rangeGrammar) else none
  | _ => none

end Rejection

end Argline
