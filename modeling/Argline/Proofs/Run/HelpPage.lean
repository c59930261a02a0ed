/-
**Help loses nothing.**

* `Schema.IsBuilt.doc_ne_empty`: every built-in option has a documentation;
* `Runner.help_complete`: on a page of any width there is an entry for every option that is offered, in
  order, with all flags and with all lines of its help text.
-/

import Argline.Proofs.Help.Layout
import Argline.Proofs.Run.Built

namespace Argline

/-- The standard built-in options have a documentation. -/
theorem Schema.IsBuilt.doc_ne_empty {schema : Schema} {parameters : List Parameter}
    {beginning : String} (built : schema.IsBuilt parameters Builtin.standard beginning)
    {option : BuiltinOption} (member : option ∈ schema.builtins) : option.builtin.doc ≠ "" := by
  have standard := (built.builtin option member).1
  simp only [Builtin.standard, List.mem_cons, List.not_mem_nil, or_false] at standard
  rcases standard with equal | equal | equal <;> rw [equal] <;> decide

namespace Runner

variable {m : Type → Type} [Monad m]

/-- **Help loses nothing**, if the beginning of renamed options has no percent sign and no line feed:
whatever the width of the page, the summary and the documentation are, there is a page, with an entry for
each parameter in the order of declaration and then for each built-in option that is offered. An entry
shows all flags of its option in the heading, and all lines of the help text as they are, each on a line
of its own. -/
theorem help_complete {entry : Entry m} {settings : Settings}
    {simulators : List (String × Simulator m)} {runner : Runner m}
    (made : ofEntry entry settings simulators = .ok runner)
    (plain : '%' ∉ settings.beginning.toList) (flat : '\n' ∉ settings.beginning.toList) :
    runner.command.schema.parameters.map ParameterOption.parameter = entry.parameters ∧
      ∃ content column declared offered, runner.command.helpText = .ok content ∧
        runner.command.ShowsHelp content column declared offered := by
  have built := (isBuilt_of_ofEntry made).schema
  refine ⟨built.parameters, Command.exists_showsHelp ?_ ?_ ?_ ?_⟩
  · exact fun target inTargets flag => built.notMem_flags Text.isSign_percent plain inTargets
  · exact fun target inTargets flag => built.notMem_flags Text.isSign_feed flat inTargets
  · exact fun option => built.doc_ne_empty
  · exact Schema.offers_of_ofParameters (schema_of_ofEntry made)

end Runner

/-- An entry point with a documentation of three lines. -/
def Entry.documented : Entry Id where
  name := "Flip"
  summary := "Flips coins."
  parameters := [
    { name := "coinCount", type := .scalar .int, doc := "100% of %(prog)s\n\n  and %%d" },
    { name := "fair", type := .scalar .bool }]
  body _ := .ok .unit

/-- The percent signs, the empty line and the spaces in front of the last line are in the entry of the
documented parameter. -/
theorem Runner.help_complete_documented :
    ∃ runner, ofEntry Entry.documented = .ok runner ∧
      '%' ∉ standardBeginning.toList ∧ '\n' ∉ standardBeginning.toList ∧
      (∃ content column declared offered, runner.command.helpText = .ok content ∧
        runner.command.ShowsHelp content column declared offered) ∧
      (runner.command.schema.parameters.map fun option =>
          HelpItem.render "Flip" 24 ⟨option.heading, option.helpTemplate⟩) = [
        .ok ("  --coin-count <Int>, -c <Int>\n"
          ++ "                        (Int) 100% of %(prog)s\n"
          ++ "                        \n"
          ++ "                          and %%d\n"),
        .ok ("  --fair [true|false], -f [true|false]\n"
          ++ "                        (Bool)\n")] := by
  have made : ofEntry Entry.documented {} Simulator.standard = .ok _ := rfl
  have plain : '%' ∉ standardBeginning.toList := by decide
  have flat : '\n' ∉ standardBeginning.toList := by decide
  exact ⟨_, made, plain, flat, (help_complete made plain flat).2, rfl⟩

end Argline
