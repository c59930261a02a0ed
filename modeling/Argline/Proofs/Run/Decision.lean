/-
**The earliest event on a command line decides.**

Options are carried out from the front of a command line to its end. Tokens that belong to no option
and parameters without a value are looked for behind the last one, so an option that fails or that asks
for a text comes before them, and before all that is wrong behind it.

* `Runner.parse_decided`: behind options that are carried out, the first one that fails has the command
  line refused for its failure, and a flag that asks for a text has the text shown.
-/

import Argline.Proofs.CommandLine.Continuation
import Argline.Proofs.Help.Rendering
import Argline.Proofs.Run.Respelling

namespace Argline

namespace Runner

variable {m : Type → Type} [Monad m]

/-- **The earliest event on a command line decides.** The options in front of it are carried out; tokens
may stand between them that no option takes. If the next option fails, the command line is refused for
this failure, however it goes on from the following option or from a `--`. If the next token is a flag
that asks for a text, the command line asks for the text, whatever comes behind the flag. -/
theorem parse_decided {entry : Entry m} {settings : Settings}
    {simulators : List (String × Simulator m)} {runner : Runner m}
    (made : ofEntry entry settings simulators = .ok runner)
    (plain : '=' ∉ settings.beginning.toList) (percentless : '%' ∉ settings.beginning.toList)
    {front : List String} (unterminated : CommandLine.terminator ∉ front)
    {slots : Slots} {left : List String}
    (consumed : runner.command.scan front = .ok (slots, left)) :
    (∀ segment halt, segment.IsCut runner.command.schema.table →
      CommandLine.terminator ∉ segment.tokens → runner.command.Offends slots segment halt →
        ∀ back, CommandLine.BeginsAnew runner.command.schema.table back →
          runner.command.parse (front ++ segment.spelling ++ back) = .error halt) ∧
    ∀ option ∈ runner.command.schema.builtins, option.builtin.takesValue = false →
      ∀ flag ∈ option.flags, ∃ request,
        runner.command.request option.builtin.key = .ok request ∧ request.key = option.builtin.key ∧
          ∀ back, runner.command.parse (front ++ flag :: back) =
            .error (.refused (.requested request)) := by
  have built := (isBuilt_of_ofEntry made).schema
  refine ⟨fun segment halt isCut apart offends back anew => ?_, fun option offered asks flag flags => ?_⟩
  · have unterminated' : CommandLine.terminator ∉ segment.spelling := by
      rw [Segment.spelling, List.mem_cons, not_or]
      exact ⟨(built.ne_terminator isCut.mark).symm, apart⟩
    have cut := CommandLine.ofTokens_spelling_append isCut unterminated' anew
    rw [List.append_assoc]
    refine Command.parse_append_error unterminated consumed ?_ (congrArg _ cut)
      (offends.performSegment_eq left)
    rintro token first
    cases first
    exact .inr (Option.isSome_of_eq_some isCut.mark)
  · have inTargets := (Schema.builtin_mem_targets_iff option).mpr offered
    have signless : ∀ target ∈ runner.command.schema.targets, ∀ flag ∈ target.flags,
        '%' ∉ flag.toList := fun target inTargets flag flags =>
      built.notMem_flags Text.isSign_percent percentless inTargets flags
    obtain ⟨request, answered, key⟩ := Command.exists_request signless option.builtin.key
    refine ⟨request, answered, key, fun back => ?_⟩
    have found := (built.lookup_eq_some_iff flag (.builtin option)).mpr ⟨inTargets, flags⟩
    have marked := Mark.ofToken?_flag (built.equals_notMem_flags plain inTargets flags) found
    obtain ⟨tokens, others, next⟩ :=
      CommandLine.exists_segments_cons (built.ne_terminator marked) marked back
    refine Command.parse_append_error unterminated consumed ?_ next
      (Command.performSegment_of_request asks answered flag tokens _)
    rintro token first
    cases first
    exact .inr (Option.isSome_of_eq_some marked)

/-- Behind a stray token and one of the two options, the other one is refused for its token, the same one
for being repeated, and the help page is shown, whatever comes then. -/
theorem parse_decided_coins :
    coins.command.scan ["x", "-c", "3"] = .ok (⟨[("coinCount", .int 3)]⟩, ["x"]) ∧
      coins.command.parse ["x", "-c", "3", "--fair", "maybe", "-c", "4"] =
        .error (.refused (.rejected (.unrecognized ["maybe"] none))) ∧
      coins.command.parse ["x", "-c", "3", "-c=4", "--", "--help"] =
        .error (.refused (.rejected (.repeated "-c"))) ∧
      ∃ content, coins.command.parse ["x", "-c", "3", "-h", "--nope", "--fair", "maybe"] =
        .error (.refused (.requested ⟨"help", content⟩)) := by
  have consumed : coins.command.scan ["x", "-c", "3"] =
      .ok (⟨[("coinCount", .int 3)]⟩, ["x"]) := rfl
  obtain ⟨refused, asked⟩ :=
    parse_decided ofEntry_coins (by decide) (by decide) (by decide) consumed
  refine ⟨consumed, ?_, ?_, ?_⟩
  · refine refused ⟨⟨"--fair", .parameter coins.command.schema.parameters[1], none⟩, ["maybe"]⟩ _
      ⟨rfl, by decide⟩ (by decide) (.unread rfl rfl (by decide) rfl) ["-c", "4"] ?_
    rintro token first
    cases first
    exact .inr rfl
  · refine refused ⟨⟨"-c", .parameter coins.command.schema.parameters[0], some "4"⟩, []⟩ _
      ⟨rfl, by decide⟩ (by decide) (.repeated rfl rfl (by decide)) ["--", "--help"] ?_
    rintro token first
    cases first
    exact .inl rfl
  · obtain ⟨⟨key, content⟩, _, rfl, helped⟩ :=
      asked ⟨.help, some ⟨"help", some "h"⟩⟩ (by decide) rfl "-h" (by decide)
    exact ⟨content, helped ["--nope", "--fair", "maybe"]⟩

end Runner

end Argline
