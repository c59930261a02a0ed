/-
**Texts without the blanks at their ends.**

* `Text.Strips`: what is left of a text when the blanks at both of its ends are gone;
* `Text.strips_stripBlanks`: this is what stripping leaves;
* `Text.stripBlanks_eq_nil_iff`: nothing is left exactly of blanks alone.
-/

import Argline.Proofs.Fronts
import Argline.Text.Blank
import Mathlib.Data.List.DropRight

namespace Argline.Text

/-- A text is the content with nothing but blanks around it, and the content neither begins nor ends
with one. -/
structure Strips (text content : List Char) : Prop where
  whole : ∃ before behind, text = before ++ content ++ behind ∧
    ∀ c ∈ before ++ behind, isBlank c = true
  head : ∀ c ∈ content.head?, isBlank c = false
  last : ∀ c ∈ content.getLast?, isBlank c = false

variable (text : List Char)

/-- Stripping drops the blanks in front, and then those behind. -/
theorem stripBlanks_eq_rdropWhile :
    stripBlanks text = (text.dropWhile isBlank).rdropWhile isBlank := rfl

/-- **Stripping takes the blanks from both ends, and no more.** -/
theorem strips_stripBlanks : Strips text (stripBlanks text) := by
  rw [stripBlanks_eq_rdropWhile]
  refine ⟨⟨text.takeWhile isBlank, (text.dropWhile isBlank).rtakeWhile isBlank, ?_, ?_⟩, ?_, ?_⟩
  · rw [List.append_assoc, List.rdropWhile_append_rtakeWhile, List.takeWhile_append_dropWhile]
  · intro c member
    rcases List.mem_append.mp member with before | behind
    · exact List.mem_takeWhile_imp before
    · exact List.mem_rtakeWhile_imp behind
  · intro c first
    obtain ⟨behind, whole⟩ := List.rdropWhile_prefix isBlank (text.dropWhile isBlank)
    have kept : c ∈ (text.dropWhile isBlank).head? := by
      rw [← whole, List.head?_append, Option.mem_def.mp first]
      rfl
    exact eq_false_of_head?_dropWhile c kept
  · intro c final
    obtain ⟨nonempty, rfl⟩ := List.mem_getLast?_eq_getLast final
    exact Bool.eq_false_iff.mpr (List.rdropWhile_last_not isBlank _ nonempty)

/-- **Nothing is left exactly of a text that is all blanks.** -/
theorem stripBlanks_eq_nil_iff : stripBlanks text = [] ↔ ∀ c ∈ text, isBlank c = true := by
  rw [stripBlanks_eq_rdropWhile, List.rdropWhile_eq_nil_iff, ← List.dropWhile_eq_nil_iff,
    List.dropWhile_idempotent, List.dropWhile_eq_nil_iff]

end Argline.Text
