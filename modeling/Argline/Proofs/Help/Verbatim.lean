/-
**Documentation is shown word for word.**

A description is read as a template only if it names the program, and then its percent signs are
doubled. Doubling them keeps the name of the program in it (`namesProgram_asTemplate`), so it is never
left doubled, and what does not name the program is never read as a template.

* `namesProgram_iff`: when a description names the program;
* `describe_eq_none_iff`: there is no description exactly of blanks alone;
* `HelpPage.documentation_verbatim`: summaries and help texts are shown as they are, whatever percent
  signs are in them.
-/

import Argline.Proofs.Help.Rendering
import Argline.Proofs.Text.Blank
import Mathlib.Data.List.Infix

namespace Argline

/-- A description names the program if the beginning of the directive for it occurs in it. -/
theorem namesProgram_iff (description : String) :
    namesProgram description = true ↔ "%(prog)".toList <:+: description.toList :=
  occursIn_iff_infix _ _

/-- **There is no description exactly of a summary that is all blanks.** -/
theorem describe_eq_none_iff (summary : String) :
    describe summary = none ↔ ∀ c ∈ summary.toList, Text.isBlank c = true := by
  rw [← Text.stripBlanks_eq_nil_iff, ← String.ofList_eq_empty_iff, ← Text.strip,
    ← String.isEmpty_iff]
  unfold describe
  dsimp only
  split_ifs with empty named
  · simp [empty]
  · simp [empty]
  · simp [empty]

namespace HelpPage

/-- A description is read as a template if it names the program, and stands as it is if it does not. -/
theorem descriptionText_eq (program description : String) :
    descriptionText program description =
      if "%(prog)".toList <:+: description.toList then Text.fill [("prog", program)] description
      else .ok description := by
  by_cases named : namesProgram description = true
  · rw [descriptionText, if_pos named, if_pos ((namesProgram_iff _).mp named)]
    rfl
  · rw [descriptionText, if_neg named, if_neg (mt (namesProgram_iff _).mpr named)]
    rfl

/-- **Documentation is shown word for word.** A description is read as a template exactly if it names
the program. There is none of a summary that is all blanks, and every other summary has a description
that shows it without the blanks at its ends. The help text of an option shows its type and its
documentation, under whatever values its template is read. -/
theorem documentation_verbatim (summary program : String) :
    (∀ description, descriptionText program description =
      if "%(prog)".toList <:+: description.toList then Text.fill [("prog", program)] description
      else .ok description) ∧
    (describe summary = none ↔ ∀ c ∈ summary.toList, Text.isBlank c = true) ∧
    Text.Strips summary.toList (Text.strip summary).toList ∧
    (∀ description ∈ describe summary,
      descriptionText program description = .ok (Text.strip summary)) ∧
    ∀ (option : ParameterOption) (values : List (String × String)),
      Text.fill values option.helpTemplate = .ok
        (if option.parameter.doc = "" then "(" ++ option.parameter.type.label ++ ")"
        else "(" ++ option.parameter.type.label ++ ") " ++ option.parameter.doc) := by
  refine ⟨descriptionText_eq program, describe_eq_none_iff summary, ?_, ?_, ?_⟩
  · rw [Text.strip, String.toList_ofList]
    exact Text.strips_stripBlanks summary.toList
  · intro description described
    exact descriptionText_of_describe described program
  · intro option values
    rw [ParameterOption.helpTemplate, Text.fill_asTemplate, ParameterOption.helpText_eq]

-- The directive is found behind a percent sign too, and then all percent signs are doubled.
example : describe "\t%%(prog)s is 100% \n" = some "%%%%(prog)s is 100%%" := by decide +kernel

end HelpPage

end Argline
