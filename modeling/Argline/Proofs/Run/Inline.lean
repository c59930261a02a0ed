/-
**An argument behind an equals sign.**

* `Schema.Hands`: a token that gives an option one text and nothing else;
* `Schema.IsBuilt.hands_inline_iff`: a flag with an argument behind an equals sign does, unless the
  argument is `--` or the whole token is a flag;
* `Runner.parse_inline`: the one parameter of a command line is read from its inline argument as from
  that one token;
* `Runner.parse_inline_terminator`: the argument `--` is dropped.
-/

import Argline.Proofs.CommandLine.Acceptance
import Argline.Proofs.Run.Built

namespace Argline

/-- A token by which an option is given one text and nothing else, whatever tokens stand behind. -/
def Schema.Hands (schema : Schema) (token flag : String) (target : Target) (text : String) : Prop :=
  ∃ mark, Mark.ofToken? schema.table token = some mark ∧ ∀ behind : List String,
    Segment.actions schema.table ⟨mark, behind⟩ = .ok ([⟨flag, target, [text]⟩], behind)

theorem inlineTokens_eq_singleton_iff (argument : String) :
    inlineTokens argument = [argument] ↔ argument ≠ CommandLine.terminator := by
  unfold inlineTokens
  split <;> simp_all

/-- An option that takes tokens is given its inline argument, and the tokens behind are left. -/
theorem Segment.actions_of_inline {table : List (String × Target)} {flag argument : String}
    {target : Target} (takes : target.arity.isSome = true) (behind : List String) :
    Segment.actions table ⟨⟨flag, target, some argument⟩, behind⟩ =
      .ok ([⟨flag, target, inlineTokens argument⟩], behind) := by
  show takeInline table behind argument.toList flag target = _
  rw [Command.takeInline_of_arity takes, String.ofList_toList]

namespace Schema

variable {schema : Schema} {parameters : List Parameter} {beginning : String}
  (built : schema.IsBuilt parameters Builtin.standard beginning) {option : ParameterOption}
  (declared : option ∈ schema.parameters) {flag : String} (member : flag ∈ option.flags)
  {argument : String}

include built declared member

/-- A flag with an inline argument is read as the two, if the whole is no flag. -/
theorem IsBuilt.ofToken?_inline (free : schema.table.lookup (flag ++ "=" ++ argument) = none) :
    Mark.ofToken? schema.table (flag ++ "=" ++ argument) =
      some ⟨flag, .parameter option, some argument⟩ := by
  have plain := built.equals_notMem_flags_of_parameter declared member
  exact Mark.ofToken?_inline plain (built.lookup_of_parameter declared member) free

/-- **A flag with an argument behind an equals sign gives the option the argument and nothing else**,
unless the argument is `--` or the whole token is a flag by itself. -/
theorem IsBuilt.hands_inline_iff :
    schema.Hands (flag ++ "=" ++ argument) flag (.parameter option) argument ↔
      argument ≠ CommandLine.terminator ∧ schema.table.lookup (flag ++ "=" ++ argument) = none := by
  have takes : (Target.parameter option).arity.isSome = true := rfl
  cases whole : schema.table.lookup (flag ++ "=" ++ argument) with
  | none =>
    have marked := built.ofToken?_inline declared member whole
    rw [and_iff_left rfl, ← inlineTokens_eq_singleton_iff]
    constructor
    · rintro ⟨mark, marked', hands⟩
      rw [marked] at marked'
      cases marked'
      have given := hands []
      rw [Segment.actions_of_inline takes] at given
      simpa using given
    · intro kept
      refine ⟨_, marked, fun behind => ?_⟩
      rw [Segment.actions_of_inline takes, kept]
  | some other =>
    refine iff_of_false ?_ (by simp)
    rintro ⟨mark, marked, hands⟩
    -- the token is read as the flag that it is, so the action bears another flag
    have plain := built.equals_notMem_flags_of_parameter declared member
    have found := built.lookup_of_parameter declared member
    have reading : Mark.ofToken? schema.table (flag ++ "=" ++ argument) =
        some ⟨flag ++ "=" ++ argument, other, none⟩ := by
      rw [Mark.ofToken?, beforeEquals_inline plain, found, whole]
    rw [reading] at marked
    cases marked
    have taken : takeBehind (flag ++ "=" ++ argument) other [] =
        .ok ([⟨flag, .parameter option, [argument]⟩], []) := hands []
    unfold takeBehind at taken
    split at taken
    · simp only [Except.ok.injEq, Prod.mk.injEq, List.cons.injEq, Action.mk.injEq] at taken
      exact plain (taken.1.1.1 ▸ by simp)
    · cases taken

end Schema

namespace Runner

variable {m : Type → Type} {entry : Entry m} {settings : Settings}
  {simulators : List (String × Simulator m)} {runner : Runner m}

/-- **The one parameter is read from its inline argument as from that one token.** -/
theorem IsBuilt.map_parse_inline (built : runner.IsBuilt entry settings simulators)
    {option : ParameterOption} (declared : option ∈ runner.command.schema.parameters)
    (only : entry.parameters = [option.parameter])
    (unreserved : option.parameter.name ∉ reservedNames)
    (kept : option.parameter.name ≠ surplusSlot) {flag : String} (member : flag ∈ option.flags)
    {argument : String} (literal : argument ≠ CommandLine.terminator)
    (free : runner.command.schema.table.lookup (flag ++ "=" ++ argument) = none) :
    (runner.command.parse [flag ++ "=" ++ argument]).map Call.arguments =
      (orReject (Value.ofTokens option.parameter.type [argument])).map
        fun value => [(option.parameter.name, value)] := by
  have alone : runner.command.schema.parameters = [option] := by
    have names := built.schema.parameters.trans only
    obtain ⟨other, equal, _⟩ := List.map_eq_singleton_iff.mp names
    rw [equal] at declared ⊢
    rw [List.mem_singleton.mp declared]
  have marked := built.schema.ofToken?_inline declared member free
  let segment : Segment := ⟨⟨flag, .parameter option, some argument⟩, []⟩
  have line : CommandLine.ofTokens runner.command.schema.table [flag ++ "=" ++ argument] =
      ⟨[], [segment], []⟩ := by
    refine (CommandLine.ofTokens_eq_iff _ _).mpr ⟨rfl, ?_, ?_⟩
    · intro other inside
      obtain rfl := List.mem_singleton.mp inside
      exact ⟨marked, by simp [segment]⟩
    · rw [List.mem_singleton]
      intro equal
      have inside : '=' ∈ CommandLine.terminator.toList := by rw [equal]; simp
      exact absurd inside (by decide)
  have action : segment.actions runner.command.schema.table =
      .ok ([⟨flag, .parameter option, [argument]⟩], []) := by
    rw [Segment.actions_of_inline rfl, (inlineTokens_eq_singleton_iff _).mpr literal]
  have vacant : Slots.empty.contains option.parameter.name = false :=
    (Slots.contains_empty _).mpr unreserved
  rw [Command.parse, Command.scan, line]
  simp only [List.foldlM_cons, List.foldlM_nil, Command.performSegment, action, Command.perform,
    vacant, Bool.false_eq_true, if_false]
  cases orReject (Value.ofTokens option.parameter.type [argument]) with
  | error stop => rfl
  | ok value =>
    have absent : surplusSlot ∉
        (Slots.empty.insert option.parameter.name value).entries.map Prod.fst := by
      simpa [Slots.empty, Slots.insert] using Ne.symm kept
    have stored : (Slots.empty.insert option.parameter.name value).get? option.parameter.name =
        some value := by
      simp [Slots.empty, Slots.insert, Slots.get?]
    have present : runner.command.missing (Slots.empty.insert option.parameter.name value) = [] := by
      rw [Command.missing_eq_nil_iff, alone]
      simp [Slots.contains, stored]
    simp [bind, Except.bind, pure, Except.pure, Except.map, Slots.surplus_of_notMem absent, orBreak,
      Slots.erase_of_notMem absent, present, Command.call, alone, Slots.get, stored]

variable [Monad m]

/-- **The inline form passes its argument unchanged.** A flag of a parameter with an argument behind
an equals sign gives the option exactly this argument, unless it is `--` or the whole token is a flag.
So if there is no other parameter, the value, or the failure to read one, is that of the one token;
and a text is the argument itself. -/
theorem parse_inline (made : ofEntry entry settings simulators = .ok runner)
    {option : ParameterOption} (declared : option ∈ runner.command.schema.parameters) {flag : String}
    (member : flag ∈ option.flags) (argument : String) :
    (runner.command.schema.Hands (flag ++ "=" ++ argument) flag (.parameter option) argument ↔
      argument ≠ CommandLine.terminator ∧
        runner.command.schema.table.lookup (flag ++ "=" ++ argument) = none) ∧
    (argument ≠ CommandLine.terminator →
      runner.command.schema.table.lookup (flag ++ "=" ++ argument) = none →
      entry.parameters = [option.parameter] → option.parameter.name ∉ reservedNames →
      option.parameter.name ≠ surplusSlot →
      (runner.command.parse [flag ++ "=" ++ argument]).map Call.arguments =
          (orReject (Value.ofTokens option.parameter.type [argument])).map
            (fun value => [(option.parameter.name, value)]) ∧
        (option.parameter.type = .scalar .text →
          (runner.command.parse [flag ++ "=" ++ argument]).map Call.arguments =
            .ok [(option.parameter.name, .text argument)])) := by
  have built := isBuilt_of_ofEntry made
  refine ⟨built.schema.hands_inline_iff declared member, ?_⟩
  intro literal free only unreserved kept
  have read := built.map_parse_inline declared only unreserved kept member literal free
  refine ⟨read, fun text => ?_⟩
  rw [read, text]
  rfl

theorem parse_inline_echo :
    ∃ runner, ofEntry (.echo "n" (.scalar .text)) = .ok runner ∧
      runner.command.schema.Hands "-n=--help" "-n"
        (.parameter ⟨⟨"n", .scalar .text, "", 0⟩, ⟨"n", some "n"⟩⟩) "--help" ∧
      (runner.command.parse ["-n=--help"]).map Call.arguments = .ok [("n", .text "--help")] := by
  have made : ofEntry (.echo "n" (.scalar .text)) {} Simulator.standard = .ok _ := rfl
  have literal : "--help" ≠ CommandLine.terminator := by decide
  have member : "-n" ∈ ParameterOption.flags ⟨⟨"n", .scalar .text, "", 0⟩, ⟨"n", some "n"⟩⟩ := by
    decide
  obtain ⟨hands, read⟩ := parse_inline made (.head _) member "--help"
  exact ⟨_, made, hands.mpr ⟨literal, rfl⟩, (read literal rfl rfl (by decide) (by decide)).2 rfl⟩

/-- The inline argument `--` does not come to the option, though as a token it is a text. -/
theorem parse_inline_terminator :
    ∃ runner, ofEntry (.echo "n" (.scalar .text)) = .ok runner ∧
      Value.ofTokens (.scalar .text) ["--"] = .ok (.text "--") ∧
      runner.command.parse ["--n=--"] = reject (.missingValue (.scalar .text)) :=
  ⟨_, rfl, rfl, rfl⟩

end Runner

end Argline
