/-
**Lists, split where a test first fails.**

* `takeWhile_append_of_stops`, `dropWhile_append_of_stops`: a list of items that pass, in front of one
  that begins with none, is split between the two;
* `eq_false_of_head?_dropWhile`: what is behind the split does begin with none;
* `dropWhile_ne_eq_nil_iff`, `takeWhile_ne_of_notMem`: there is nothing to split where a delimiter does
  not occur.
-/

import Mathlib.Data.List.TakeWhile

namespace Argline

section Test

variable {α : Type} {passes : α → Bool}

theorem eq_false_of_head?_dropWhile {items : List α} :
    ∀ item ∈ (items.dropWhile passes).head?, passes item = false := by
  intro item first
  have stopped := List.head?_dropWhile_not passes items
  rw [Option.mem_def.mp first] at stopped
  simpa using stopped

variable {front back : List α} (inside : ∀ item ∈ front, passes item = true)
  (stops : ∀ item ∈ back.head?, passes item = false)

include inside stops

theorem takeWhile_append_of_stops : (front ++ back).takeWhile passes = front := by
  rw [List.takeWhile_append_of_pos inside]
  cases back with
  | nil => simp
  | cons item rest => simp [stops item rfl]

theorem dropWhile_append_of_stops : (front ++ back).dropWhile passes = back := by
  rw [List.dropWhile_append_of_pos inside]
  cases back with
  | nil => rfl
  | cons item rest => simp [stops item rfl]

end Test

section Delimiter

variable {α : Type} [BEq α] [LawfulBEq α] {delimiter : α} {items : List α}

/-- Items among which there is no delimiter all differ from it. -/
theorem bne_of_notMem (absent : delimiter ∉ items) : ∀ item ∈ items, (item != delimiter) = true := by
  intro item member
  rw [bne_iff_ne]
  rintro rfl
  exact absent member

theorem notMem_takeWhile_ne : delimiter ∉ items.takeWhile (· != delimiter) := fun member => by
  simpa using List.mem_takeWhile_imp member

theorem eq_of_head?_dropWhile_ne : ∀ item ∈ (items.dropWhile (· != delimiter)).head?,
    item = delimiter := fun item first => by
  simpa using eq_false_of_head?_dropWhile item first

theorem takeWhile_ne_of_notMem (absent : delimiter ∉ items) :
    items.takeWhile (· != delimiter) = items :=
  List.takeWhile_eq_self_iff.mpr (bne_of_notMem absent)

theorem dropWhile_ne_eq_nil_iff : items.dropWhile (· != delimiter) = [] ↔ delimiter ∉ items := by
  rw [List.dropWhile_eq_nil_iff]
  exact ⟨fun all member => absurd (all _ member) (by simp), bne_of_notMem⟩

end Delimiter

end Argline
