/-
**Lists joined with a separator.**

* `intercalate_cons_eq`: the first list, and the others behind a separator each;
* `mem_of_mem_intercalate`, `infix_intercalate`: what is joined holds nothing but the lists and the
  separator, and holds each list whole.
-/

import Mathlib.Data.List.Basic

namespace Argline

variable {α : Type} {separator : List α} {parts : List (List α)}

theorem intercalate_cons_eq (separator first : List α) (parts : List (List α)) :
    separator.intercalate (first :: parts) = first ++ parts.flatMap (separator ++ ·) := by
  induction parts generalizing first with
  | nil => simp
  | cons part rest ih =>
    rw [List.intercalate_cons_cons, ih, List.flatMap_cons, List.append_assoc, List.append_assoc]

theorem mem_of_mem_intercalate {c : α} (inside : c ∈ separator.intercalate parts) :
    c ∈ separator ∨ ∃ part ∈ parts, c ∈ part := by
  cases parts with
  | nil => simp at inside
  | cons first rest =>
    rw [intercalate_cons_eq, List.mem_append, List.mem_flatMap] at inside
    rcases inside with here | ⟨part, member, behind⟩
    · exact .inr ⟨first, List.mem_cons_self, here⟩
    · rcases List.mem_append.mp behind with between | inPart
      · exact .inl between
      · exact .inr ⟨part, List.mem_cons_of_mem _ member, inPart⟩

theorem infix_intercalate {part : List α} (member : part ∈ parts) :
    part <:+: separator.intercalate parts := by
  cases parts with
  | nil => cases member
  | cons first rest =>
    rw [intercalate_cons_eq]
    rcases List.mem_cons.mp member with rfl | later
    · exact (List.prefix_append _ _).isInfix
    · obtain ⟨before, after, rfl⟩ := List.append_of_mem later
      refine ⟨first ++ before.flatMap (separator ++ ·) ++ separator,
        after.flatMap (separator ++ ·), ?_⟩
      simp

end Argline
