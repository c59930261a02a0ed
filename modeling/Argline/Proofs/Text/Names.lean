/-
**The characters of names.**

* `letter_lower_ge`: the lower case of a letter lies behind the ASCII capitals, digits and signs;
* `ne_of_mem_lower`: no character but a sign itself has it in its lower case;
* `IsSign`, `IsSign.notMem_of_isIdentifier`: the signs that stand in no identifier.
-/

import Argline.Text.Case
import Argline.Text.Identifier
import Mathlib.Tactic.Common

namespace Argline.Text

/-! ### Tables -/

theorem exists_range_of_within {ranges : List (Nat × Nat)} {code : Nat}
    (inside : CharSet.within ranges code = true) :
    ∃ range ∈ ranges, range.1 ≤ code ∧ code ≤ range.2 := by
  induction ranges with
  | nil => cases inside
  | cons range rest ih =>
    rw [CharSet.within] at inside
    split at inside
    · next below => exact ⟨range, List.mem_cons_self, by simpa using inside, below⟩
    · obtain ⟨other, member, between⟩ := ih inside
      exact ⟨other, List.mem_cons_of_mem _ member, between⟩

/-- A letter of ASCII is a capital or a small one, and all others lie behind. -/
theorem code_of_isLetter {c : Char} (letter : isLetter c = true) :
    (0x41 ≤ c.toNat ∧ c.toNat ≤ 0x5A) ∨ 0x61 ≤ c.toNat := by
  have table : ∀ range ∈ letters.ranges, 0x41 ≤ range.1 ∧ (range.2 ≤ 0x5A ∨ 0x61 ≤ range.1) := by
    decide +kernel
  have inside : CharSet.within letters.ranges c.toNat = true := by
    have none : CharSet.withinAlternating letters.alternating c.toNat = false := rfl
    rwa [isLetter, CharSet.contains, none, Bool.or_false] at letter
  obtain ⟨range, member, first, last⟩ := exists_range_of_within inside
  have := table range member
  omega

theorem exists_run_of_imageUnder {runs : List CaseRun} {code image : Nat}
    (found : imageUnder runs code = some image) :
    ∃ run ∈ runs, run.image ≤ image ∧ image ≤ run.image + (run.last - run.first) := by
  induction runs with
  | nil => cases found
  | cons run rest ih =>
    rw [imageUnder] at found
    split at found
    · split at found
      · cases found
        exact ⟨run, List.mem_cons_self, by omega, by omega⟩
      · cases found
    · obtain ⟨other, member, between⟩ := ih found
      exact ⟨other, List.mem_cons_of_mem _ member, between⟩

/-- A lowered code point is a character behind the ASCII capitals. -/
theorem toNat_ofNat_of_lowerRuns {code image : Nat} (found : imageUnder lowerRuns code = some image) :
    0x61 ≤ (Char.ofNat image).toNat := by
  have table : ∀ run ∈ lowerRuns, 0x61 ≤ run.image ∧
      (run.image + (run.last - run.first) < 0xD800 ∨
        0xDFFF < run.image ∧ run.image + (run.last - run.first) < 0x110000) := by
    decide +kernel
  obtain ⟨run, member, first, last⟩ := exists_run_of_imageUnder found
  have := table run member
  have valid : image.isValidChar := by
    unfold Nat.isValidChar
    omega
  have code : (Char.ofNat image).toNat = image := by
    rw [Char.ofNat, dif_pos valid]
    rfl
  omega

/-! ### Lower case -/

/-- The lower case of a character: itself, or characters behind the ASCII capitals. -/
theorem mem_lower {c d : Char} (member : d ∈ lower c) :
    0x61 ≤ d.toNat ∨ (d = c ∧ imageUnder lowerRuns c.toNat = none) := by
  unfold lower at member
  split at member
  · refine .inl ?_
    rcases List.mem_cons.mp member with rfl | dot
    · decide
    · obtain rfl := List.mem_singleton.mp dot
      decide
  · split at member
    · next image found =>
      obtain rfl := List.mem_singleton.mp member
      exact .inl (toNat_ofNat_of_lowerRuns found)
    · next none =>
      exact .inr ⟨List.mem_singleton.mp member, none⟩

/-- The ASCII capitals have lower case. -/
theorem imageUnder_lowerRuns_of_capital {code : Nat} (first : 0x41 ≤ code) (last : code ≤ 0x5A) :
    imageUnder lowerRuns code ≠ none := by
  unfold lowerRuns
  rw [imageUnder, if_pos last, if_pos ⟨first, Nat.mod_one _⟩]
  exact Option.some_ne_none _

/-- **The lower case of a letter lies behind the ASCII capitals, digits and signs.** -/
theorem letter_lower_ge {c d : Char} (letter : isLetter c = true) (member : d ∈ lower c) :
    0x61 ≤ d.toNat := by
  rcases mem_lower member with behind | ⟨rfl, unchanged⟩
  · exact behind
  · rcases code_of_isLetter letter with ⟨first, last⟩ | behind
    · exact absurd unchanged (imageUnder_lowerRuns_of_capital first last)
    · exact behind

/-- A sign of ASCII has no lower case but itself. -/
theorem ne_of_mem_lower {c d sign : Char} (ascii : sign.toNat < 0x61) (apart : c ≠ sign)
    (member : d ∈ lower c) : d ≠ sign := by
  rintro rfl
  rcases mem_lower member with behind | ⟨rfl, _⟩
  · omega
  · exact apart rfl

theorem lower_ne_nil (c : Char) : lower c ≠ [] := by
  unfold lower
  split
  · exact List.cons_ne_nil _ _
  · split <;> exact List.cons_ne_nil _ _

/-! ### Identifiers -/

/-- All characters of an identifier may stand in one. -/
theorem continues_of_isIdentifier {text : String} (identifier : isIdentifier text = true) {c : Char}
    (member : c ∈ text.toList) : continuesIdentifier c = true := by
  unfold isIdentifier at identifier
  split at identifier
  · cases identifier
  · next first rest equal =>
    rw [Bool.and_eq_true, List.all_eq_true] at identifier
    rw [equal] at member
    rcases List.mem_cons.mp member with rfl | later
    · rw [continuesIdentifier, identifier.1, Bool.true_or]
    · exact identifier.2 c later

/-- A sign that stands in no name: an ASCII character in front of the small letters that is no hyphen
and cannot stand in an identifier. -/
structure IsSign (sign : Char) : Prop where
  ascii : sign.toNat < 0x61
  ne_hyphen : sign ≠ '-'
  foreign : continuesIdentifier sign = false

theorem isSign_equals : IsSign '=' := ⟨by decide, by decide, by decide⟩

theorem isSign_percent : IsSign '%' := ⟨by decide, by decide, by decide⟩

theorem isSign_feed : IsSign '\n' := ⟨by decide, by decide, by decide⟩

theorem IsSign.notMem_of_isIdentifier {sign : Char} (isSign : IsSign sign) {text : String}
    (identifier : isIdentifier text = true) : sign ∉ text.toList := by
  intro member
  have continues := continues_of_isIdentifier identifier member
  rw [isSign.foreign] at continues
  cases continues

theorem toList_ne_nil_of_isIdentifier {text : String} (identifier : isIdentifier text = true) :
    text.toList ≠ [] := by
  intro empty
  rw [isIdentifier, empty] at identifier
  cases identifier

end Argline.Text
