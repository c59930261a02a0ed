/-
**Flags are recognised.**

A token is cut at its first equals sign before it is looked up, so a flag with an equals sign in it is
recognised only if its first part is a flag too.

* `CommandLine.Recognises`: a flag is read as its option wherever it stands in front of the first `--`;
* `CommandLine.recognises_of_ofToken?`: a token that is read as an option opens a segment of its own;
* `Runner.flag_recognised_iff`: the flags that are recognised, and what the flag does that the advice names;
* `Runner.renamed_unrecognised`: renamed options that cannot be asked for.
-/

import Argline.Proofs.CommandLine.Continuation
import Argline.Proofs.Help.Rendering
import Argline.Proofs.Run.Completeness
import Argline.Proofs.Run.Respelling

namespace Argline

/-! ### Flags on a command line -/

namespace CommandLine

variable {table : List (String × Target)}

/-- A flag is recognised as an option: wherever it stands in front of the first `--`, a segment of the
option begins with it. What stands in front of it is cut as if the flag were not there, so no option
takes the flag, and it does not stray. -/
def Recognises (table : List (String × Target)) (flag : String) (target : Target) : Prop :=
  ∀ front back, terminator ∉ front → ∃ tokens others trailing,
    back = tokens ++ others.flatMap Segment.spelling ++ trailing ∧
      ofTokens table (front ++ flag :: back) = {
        leading := (ofTokens table front).leading
        segments := (ofTokens table front).segments ++ ⟨⟨flag, target, none⟩, tokens⟩ :: others
        trailing }

/-- **A flag that is read as an option is recognised.** -/
theorem recognises_of_ofToken? {flag : String} {target : Target}
    (marked : Mark.ofToken? table flag = some ⟨flag, target, none⟩)
    (goesOn : flag ≠ terminator) : Recognises table flag target := by
  intro front back unterminated
  have anew : BeginsAnew table (flag :: back) := by
    intro token first
    obtain rfl : flag = token := by simpa using first
    exact .inr (Option.isSome_of_eq_some marked)
  obtain ⟨tokens, others, next⟩ := exists_segments_cons goesOn marked back
  refine ⟨tokens, others, (ofTokens table (flag :: back)).trailing, ?_, ?_⟩
  · -- the flag and what stands behind it are the tokens of the segments and those from `--` on
    have whole := List.takeWhile_append_dropWhile (p := (· != terminator)) (l := flag :: back)
    rw [takeWhile_eq_spelling table, anew.leading, next] at whole
    exact (List.cons.inj whole).2.symm
  · rw [ofTokens_append unterminated anew, next]

/-- A flag that is recognised is read as its option. -/
theorem Recognises.ofToken? {flag : String} {target : Target}
    (recognised : Recognises table flag target) :
    Mark.ofToken? table flag = some ⟨flag, target, none⟩ := by
  obtain ⟨tokens, others, trailing, _, cutAs⟩ := recognised [] [] List.not_mem_nil
  have opened : ⟨⟨flag, target, none⟩, tokens⟩ ∈ (ofTokens table [flag]).segments := by
    rw [← List.nil_append [flag], cutAs]
    exact List.mem_append_right _ List.mem_cons_self
  obtain ⟨token, member, marked⟩ := List.mem_filterMap.mp (mark_mem_marks opened)
  obtain rfl := List.mem_singleton.mp ((List.takeWhile_sublist _).subset member)
  exact marked

end CommandLine

/-- A flag is read as its option exactly if its part in front of the first equals sign is a flag. -/
theorem Mark.ofToken?_eq_some_iff_of_lookup {table : List (String × Target)} {flag : String}
    {target : Target} (found : table.lookup flag = some target) :
    ofToken? table flag = some ⟨flag, target, none⟩ ↔
      ∃ other, table.lookup (beforeEquals flag) = some other := by
  rw [ofToken?, found]
  cases table.lookup (beforeEquals flag) with
  | none => simp
  | some other => simp

/-! ### Flags of a schema -/

namespace Schema

variable {schema : Schema} {parameters : List Parameter} {beginning : String}
  (built : schema.IsBuilt parameters Builtin.standard beginning) {target : Target}
  (inTargets : target ∈ schema.targets) {flag : String} (flags : flag ∈ target.flags)

include built inTargets flags

/-- **A flag is recognised exactly if it has no equals sign, or its part in front of it is a flag.** -/
theorem IsBuilt.recognises_iff :
    CommandLine.Recognises schema.table flag target ↔
      '=' ∉ flag.toList ∨ ∃ other ∈ schema.targets, beforeEquals flag ∈ other.flags := by
  have found := (built.lookup_eq_some_iff flag target).mpr ⟨inTargets, flags⟩
  have marked : CommandLine.Recognises schema.table flag target ↔
      ∃ other ∈ schema.targets, beforeEquals flag ∈ other.flags := by
    simp only [← built.lookup_eq_some_iff, ← Mark.ofToken?_eq_some_iff_of_lookup found]
    exact ⟨fun recognised => recognised.ofToken?, fun marked =>
      CommandLine.recognises_of_ofToken? marked (built.isFlag found).ne_terminator⟩
  rw [marked, iff_or_self]
  intro plain
  rw [beforeEquals_of_notMem plain]
  exact ⟨target, inTargets, flags⟩

/-- A flag with an equals sign is one of a renamed option. -/
theorem IsBuilt.renamed_of_equals (equals : '=' ∈ flag.toList) :
    '=' ∈ beginning.toList ∧ ∃ option, target = .builtin option ∧ option.renamed = true := by
  cases target with
  | parameter option =>
    have declared := (parameter_mem_targets_iff option).mp inTargets
    exact absurd equals (built.equals_notMem_flags_of_parameter declared flags)
  | builtin option =>
    have member := (builtin_mem_targets_iff option).mp inTargets
    by_contra other
    refine built.notMem_flags_of_builtin Text.isSign_equals member (fun renamed inside => ?_)
      flags equals
    exact other ⟨inside, option, rfl, renamed⟩

end Schema

/-! ### The help request -/

/-- **The flag that asks for help, as the only token, ends in the request**, if it is recognised. -/
theorem Command.parse_help {command : Command} {option : BuiltinOption}
    (advises : command.Advises option) {flag : String}
    (recognised : CommandLine.Recognises command.schema.table flag (.builtin option))
    {content : String} (helped : command.helpText = .ok content) :
    command.parse [flag] = .error (.refused (.requested ⟨Builtin.helpKey, content⟩)) := by
  obtain ⟨tokens, others, trailing, _, cutAs⟩ := recognised [] [] List.not_mem_nil
  have next : (CommandLine.ofTokens command.schema.table [flag]).segments =
      ⟨⟨flag, .builtin option, none⟩, tokens⟩ :: others := by
    rw [← List.nil_append [flag], cutAs]
    rfl
  have anew : CommandLine.BeginsAnew command.schema.table [flag] := by
    intro token first
    obtain rfl : flag = token := by simpa using first
    exact .inr (Option.isSome_of_eq_some recognised.ofToken?)
  have asks : option.builtin.takesValue = false := by
    rw [advises.help]
    rfl
  have answered : command.request option.builtin.key = .ok ⟨Builtin.helpKey, content⟩ := by
    have help : Builtin.helpKey ≠ Builtin.versionKey := by decide
    rw [advises.help]
    show command.request Builtin.helpKey = _
    rw [request, if_neg help, helped]
    rfl
  have consumed : command.scan [] = .ok (.empty, []) := rfl
  exact parse_append_error List.not_mem_nil consumed anew next
    (performSegment_of_request asks answered flag tokens _)

namespace Runner

variable {m : Type → Type} [Monad m]

/-- **Flags are recognised**, except those that the beginning of renamed options cuts short: a flag is
recognised wherever it stands in front of the first `--`, exactly if it has no equals sign or its part in
front of the first one is a flag too. The flag that the advice names ends in the help request if it is
recognised and there is a help page, and there is one unless the beginning of renamed options has a
percent sign. -/
theorem flag_recognised_iff {entry : Entry m} {settings : Settings}
    {simulators : List (String × Simulator m)} {runner : Runner m}
    (made : ofEntry entry settings simulators = .ok runner) :
    (∀ target ∈ runner.command.schema.targets, ∀ flag ∈ target.flags,
      (CommandLine.Recognises runner.command.schema.table flag target ↔
        '=' ∉ flag.toList ∨
          ∃ other ∈ runner.command.schema.targets, beforeEquals flag ∈ other.flags) ∧
      ('=' ∈ flag.toList → '=' ∈ settings.beginning.toList ∧
        ∃ option, target = .builtin option ∧ option.renamed = true)) ∧
    ∃ option, runner.command.Advises option ∧ ∀ names, option.names = some names →
      (CommandLine.Recognises runner.command.schema.table (longFlag names.long) (.builtin option) →
        ∀ content, runner.command.helpText = .ok content →
          runner.command.parse [longFlag names.long] =
            .error (.refused (.requested ⟨Builtin.helpKey, content⟩))) ∧
      ('%' ∉ settings.beginning.toList → ∃ content, runner.command.helpText = .ok content) := by
  have built := (isBuilt_of_ofEntry made).schema
  refine ⟨fun target inTargets flag flags => ⟨built.recognises_iff inTargets flags,
    built.renamed_of_equals inTargets flags⟩, ?_⟩
  obtain ⟨option, advises⟩ := Command.exists_advises (map_builtin_of_ofEntry made)
  refine ⟨option, advises, fun names offered => ⟨fun recognised content helped =>
    Command.parse_help advises recognised helped, fun plain => ?_⟩⟩
  exact Command.exists_helpText fun target inTargets flag flags =>
    built.notMem_flags Text.isSign_percent plain inTargets flags

theorem flag_recognised_iff_coins :
    (∀ target ∈ coins.command.schema.targets, ∀ flag ∈ target.flags,
      CommandLine.Recognises coins.command.schema.table flag target) ∧
    ∃ content, coins.command.parse ["--help"] =
      .error (.refused (.requested ⟨Builtin.helpKey, content⟩)) := by
  obtain ⟨recognised, option, advises, offered⟩ := flag_recognised_iff ofEntry_coins
  have all : ∀ target ∈ coins.command.schema.targets, ∀ flag ∈ target.flags,
      CommandLine.Recognises coins.command.schema.table flag target := by
    intro target inTargets flag flags
    obtain ⟨exactly, cutShort⟩ := recognised target inTargets flag flags
    refine exactly.mpr (.inl fun equals => ?_)
    exact absurd (cutShort equals).1 (by decide)
  have found : option = ⟨.help, some ⟨"help", some "h"⟩⟩ := by
    rcases advises.offered with _ | ⟨_, _ | ⟨_, _ | ⟨_, ⟨⟩⟩⟩⟩
    · rfl
    · exact absurd advises.help (by decide)
    · exact absurd advises.help (by decide)
  subst found
  obtain ⟨ends, helped⟩ := offered ⟨"help", some "h"⟩ rfl
  obtain ⟨content, helped⟩ := helped (by decide)
  have help : CommandLine.Recognises coins.command.schema.table "--help" _ :=
    all _ ((Schema.builtin_mem_targets_iff _).mpr advises.offered) "--help" (by decide)
  exact ⟨all, content, ends help content helped⟩

/-- **Renamed options that cannot be asked for.** Where a parameter has the name of the help option, the
beginning of renamed options may cut the flag short that the advice names, so that it strays; or the flag
breaks the run off, as it cannot be shown. -/
theorem renamed_unrecognised :
    (∃ runner, ofEntry (.echo "help" (.scalar .int)) { beginning := "a=" } = .ok runner ∧
      (∃ target ∈ runner.command.schema.targets, "--a=help" ∈ target.flags ∧
        ¬ CommandLine.Recognises runner.command.schema.table "--a=help" target) ∧
      runner.command.advice = some "Run with --a=help to list the available options." ∧
      runner.command.parse ["--a=help"] =
        reject (.unrecognized ["--a=help"] runner.command.advice)) ∧
    ∃ runner, ofEntry (.echo "help" (.scalar .int)) { beginning := "%" } = .ok runner ∧
      runner.command.advice = some "Run with --%help to list the available options." ∧
      ∃ breakage, runner.command.parse ["--%help"] = .error (.broken breakage) := by
  refine ⟨⟨_, rfl, ⟨.builtin ⟨.help, some ⟨"a=help", none⟩⟩, by decide, by decide, ?_⟩, rfl, rfl⟩,
    ⟨_, rfl, rfl, _, rfl⟩⟩
  intro recognised
  exact absurd recognised.ofToken? (by decide)

end Runner

end Argline
