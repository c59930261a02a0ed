/-
**Lines and line feeds.**

* `Text.AreLines`, `Text.areLines_lines`: what the lines of a text are, and that a text is cut into them;
* `Text.isLineBreak_of_mem_lines`: no line has a line break in it;
* `Text.IsSolid`: a text of whole lines none of which is empty;
* `Text.IsSolid.squeezeAfter`: no line feed of such a text is dropped;
* `Text.squeezeAfter_feeds`: what stands behind an empty line is cut down apart from what stands in front
  of it;
* `Text.trimBreaks_squeezeBreaks`: of a page, all lines of such sections are kept.
-/

import Argline.Text.Line
import Mathlib.Data.List.Basic

namespace Argline.Text

/-! ### Lines -/

/-- Characters that end a line in front of others: a carriage return and a line feed, which are not taken
apart, or any other character that breaks lines. -/
inductive Breaks : List Char → List Char → Prop
  | pair {rest : List Char} : Breaks ['\r', '\n'] rest
  | single {c : Char} {rest : List Char} (breaks : isLineBreak c = true)
    (alone : c = '\r' → rest.head? ≠ some '\n') : Breaks [c] rest

/-- The lines of a text: each one is ended by a line break and has none in it. Behind the last line
break there may be one more, unless nothing is left. -/
inductive AreLines : List (List Char) → List Char → Prop
  | none : AreLines [] []
  | last {line : List Char} (nonempty : line ≠ []) (plain : ∀ c ∈ line, isLineBreak c = false) :
    AreLines [line] line
  | line {line ending rest : List Char} {more : List (List Char)}
    (plain : ∀ c ∈ line, isLineBreak c = false) (breaks : Breaks ending rest)
    (others : AreLines more rest) : AreLines (line :: more) (line ++ ending ++ rest)

namespace AreLines

/-- A character that breaks no line belongs to the line in front of which it stands. -/
theorem cons {c : Char} (goesOn : isLineBreak c = false) {first rest : List Char}
    {more : List (List Char)} (areLines : AreLines (first :: more) rest) :
    AreLines ((c :: first) :: more) (c :: rest) := by
  cases areLines with
  | last nonempty plain =>
    exact .last (List.cons_ne_nil _ _) (List.forall_mem_cons.mpr ⟨goesOn, plain⟩)
  | line plain breaks others =>
    exact .line (List.forall_mem_cons.mpr ⟨goesOn, plain⟩) breaks others

theorem plain {found : List (List Char)} {characters line : List Char}
    (areLines : AreLines found characters) (member : line ∈ found) :
    ∀ c ∈ line, isLineBreak c = false := by
  induction areLines with
  | none => cases member
  | last nonempty plain =>
    obtain rfl := List.mem_singleton.mp member
    exact plain
  | line plain breaks others ih =>
    rcases List.mem_cons.mp member with rfl | later
    · exact plain
    · exact ih later

end AreLines

/-- **A text is cut into its lines.** -/
theorem areLines_lines (characters : List Char) : AreLines (lines characters) characters := by
  induction characters using lines.induct with
  | case1 => exact .none
  | case2 rest ih => exact .line (by simp) .pair ih
  | case3 d rest notPair breaks ih =>
    rw [lines.eq_3 _ _ notPair, if_pos breaks]
    have alone : d = '\r' → rest.head? ≠ some '\n' := by
      intro same next
      obtain ⟨others, rfl⟩ := List.head?_eq_some_iff.mp next
      exact notPair others same rfl
    have ended : AreLines ([] :: lines rest) ([] ++ [d] ++ rest) :=
      .line (by simp) (.single breaks alone) ih
    exact ended
  | case4 d rest notPair goesOn none ih =>
    rw [none] at ih
    rw [lines.eq_3 _ _ notPair, if_neg goesOn, none]
    cases ih
    exact .last (List.cons_ne_nil _ _) (by simpa using goesOn)
  | case5 d rest notPair goesOn first more found ih =>
    rw [found] at ih
    rw [lines.eq_3 _ _ notPair, if_neg goesOn, found]
    exact ih.cons (by simpa using goesOn)

/-- No line has a line break in it. -/
theorem isLineBreak_of_mem_lines {characters line : List Char} (member : line ∈ lines characters)
    {c : Char} (inside : c ∈ line) : isLineBreak c = false :=
  (areLines_lines characters).plain member c inside

/-- A text that is not empty has a line. -/
theorem lines_ne_nil {characters : List Char} (nonempty : characters ≠ []) :
    lines characters ≠ [] := by
  intro none
  have areLines := areLines_lines characters
  rw [none] at areLines
  cases areLines
  exact nonempty rfl

theorem areLines_linesOf (text : String) :
    AreLines ((linesOf text).map String.toList) text.toList := by
  have same : (linesOf text).map String.toList = lines text.toList := by
    simp [linesOf, Function.comp_def]
  rw [same]
  exact areLines_lines _

/-- No line of a text has a line feed in it. -/
theorem feed_notMem_of_mem_linesOf {text line : String} (member : line ∈ linesOf text) :
    '\n' ∉ line.toList := by
  obtain ⟨characters, inLines, rfl⟩ := List.mem_map.mp member
  rw [String.toList_ofList]
  intro inside
  have other := isLineBreak_of_mem_lines inLines inside
  exact absurd other (by decide)

/-! ### Line feeds -/

/-- A line is kept, and what stands behind it is cut down as if it began there. -/
theorem squeezeAfter_append_of_notMem {line : List Char} (nonempty : line ≠ [])
    (plain : '\n' ∉ line) (seen : Nat) (rest : List Char) :
    squeezeAfter seen (line ++ rest) = line ++ squeezeAfter 0 rest := by
  induction line generalizing seen with
  | nil => exact absurd rfl nonempty
  | cons c more ih =>
    rw [List.mem_cons, not_or] at plain
    rw [List.cons_append, squeezeAfter, if_neg (Ne.symm plain.1)]
    cases more with
    | nil => rfl
    | cons d others => exact congrArg (c :: ·) (ih (List.cons_ne_nil _ _) plain.2 0)

/-- A text of whole lines none of which is empty. -/
inductive IsSolid : List Char → Prop
  | line {line : List Char} (nonempty : line ≠ []) (plain : '\n' ∉ line) : IsSolid (line ++ ['\n'])
  | append {first second : List Char} (one : IsSolid first) (other : IsSolid second) :
    IsSolid (first ++ second)

namespace IsSolid

/-- Such texts one behind the other are one. -/
theorem join {texts : List String} (nonempty : texts ≠ [])
    (each : ∀ text ∈ texts, IsSolid text.toList) : IsSolid (String.join texts).toList := by
  induction texts with
  | nil => exact absurd rfl nonempty
  | cons text rest ih =>
    have first := each text List.mem_cons_self
    cases rest with
    | nil => simpa using first
    | cons other others =>
      rw [String.join_cons, String.toList_append]
      exact first.append (ih (List.cons_ne_nil _ _) fun text member =>
        each text (List.mem_cons_of_mem _ member))

/-- **No line feed is dropped of lines none of which is empty.** -/
theorem squeezeAfter {text : List Char} (solid : IsSolid text) (seen : Nat) (rest : List Char) :
    squeezeAfter seen (text ++ rest) = text ++ Text.squeezeAfter 1 rest := by
  induction solid generalizing seen rest with
  | line nonempty plain =>
    rw [List.append_assoc, squeezeAfter_append_of_notMem nonempty plain]
    simp [Text.squeezeAfter]
  | append _ _ one other => rw [List.append_assoc, one, other, List.append_assoc]

/-- There is a character in front of the last line feed that is no line feed. -/
theorem exists_eq {text : List Char} (solid : IsSolid text) :
    ∃ body c, c ≠ '\n' ∧ text = body ++ [c, '\n'] := by
  induction solid with
  | @line line nonempty plain =>
    have last := List.dropLast_append_getLast nonempty
    refine ⟨line.dropLast, line.getLast nonempty, ?_, ?_⟩
    · rintro same
      exact plain (same ▸ List.getLast_mem nonempty)
    · nth_rewrite 1 [← last]
      simp
  | @append first _ _ _ _ ih =>
    obtain ⟨body, c, other, rfl⟩ := ih
    exact ⟨first ++ body, c, other, by simp⟩

end IsSolid

/-- **What stands behind an empty line is cut down apart from what stands in front of it.** -/
theorem squeezeAfter_feeds {seen : Nat} (few : seen ≤ 2) (front rest : List Char) :
    squeezeAfter seen (front ++ '\n' :: '\n' :: rest) =
      squeezeAfter seen (front ++ ['\n', '\n']) ++ squeezeAfter 2 rest := by
  induction front generalizing seen with
  | nil =>
    obtain rfl | rfl | rfl : seen = 0 ∨ seen = 1 ∨ seen = 2 := by omega
    · rfl
    · rfl
    · rfl
  | cons c front ih =>
    simp only [List.cons_append, squeezeAfter]
    split_ifs with feed below
    · rw [ih (by omega), List.cons_append]
    · exact ih few
    · rw [ih (Nat.zero_le 2), List.cons_append]

/-- Sections that are set off by line feeds on both sides keep those behind them. -/
theorem squeezeAfter_sections {sections : List (List Char)}
    (solid : ∀ text ∈ sections, IsSolid text) :
    squeezeAfter 2 (sections.flatMap fun text => '\n' :: text ++ ['\n']) =
      sections.flatMap fun text => text ++ ['\n'] := by
  induction sections with
  | nil => rfl
  | cons text rest ih =>
    have dropped (behind : List Char) : squeezeAfter 2 ('\n' :: behind) = squeezeAfter 2 behind := rfl
    have kept (behind : List Char) :
        squeezeAfter 1 ('\n' :: behind) = '\n' :: squeezeAfter 2 behind := rfl
    rw [List.flatMap_cons, List.cons_append, List.cons_append, dropped, List.append_assoc,
      (solid text List.mem_cons_self).squeezeAfter, List.singleton_append, kept,
      ih fun other member => solid other (List.mem_cons_of_mem _ member)]
    simp

/-- Line feeds at the end of a text are dropped. -/
theorem trimBreaks_append_feeds {first last : Char} (opens : first ≠ '\n') (closes : last ≠ '\n')
    (body : List Char) :
    trimBreaks (first :: body ++ [last, '\n', '\n']) = first :: body ++ [last] := by
  have front : (first == '\n') = false := by simpa using opens
  have back : (last == '\n') = false := by simpa using closes
  simp [trimBreaks, front, back]

/-- Sections end in one line feed, and keep to that with line feeds between them. -/
theorem exists_eq_intercalate {sections : List (List Char)} (nonempty : sections ≠ [])
    (solid : ∀ text ∈ sections, IsSolid text) :
    ∃ body c, c ≠ '\n' ∧ ['\n'].intercalate sections = body ++ [c, '\n'] ∧
      (sections.flatMap fun text => text ++ ['\n']) = body ++ [c, '\n', '\n'] := by
  induction sections with
  | nil => exact absurd rfl nonempty
  | cons text rest ih =>
    cases rest with
    | nil =>
      obtain ⟨body, c, other, rfl⟩ := (solid text List.mem_cons_self).exists_eq
      exact ⟨body, c, other, by simp, by simp⟩
    | cons next more =>
      obtain ⟨body, c, other, between, behind⟩ := ih (List.cons_ne_nil _ _) fun text member =>
        solid text (List.mem_cons_of_mem _ member)
      refine ⟨text ++ '\n' :: body, c, other, ?_, ?_⟩
      · rw [List.intercalate_cons_cons, between]
        simp
      · rw [List.flatMap_cons, behind]
        simp

/-- **Sections keep all their lines** on a page whose line feeds are cut down, and one empty line stands
in front of each. -/
theorem trimBreaks_squeezeBreaks {first : Char} (opens : first ≠ '\n') (front : List Char)
    {sections : List (List Char)} (nonempty : sections ≠ [])
    (solid : ∀ text ∈ sections, IsSolid text) :
    trimBreaks (squeezeBreaks (first :: front ++ '\n' :: '\n' ::
        sections.flatMap fun text => '\n' :: text ++ ['\n'])) ++ ['\n'] =
      squeezeBreaks (first :: front ++ ['\n', '\n']) ++ ['\n'].intercalate sections := by
  obtain ⟨body, c, closes, between, behind⟩ := exists_eq_intercalate nonempty solid
  have opened (rest : List Char) :
      squeezeBreaks (first :: rest) = first :: squeezeAfter 0 rest := by
    rw [squeezeBreaks, squeezeAfter, if_neg opens]
  rw [List.cons_append, List.cons_append, opened, opened, squeezeAfter_feeds (Nat.zero_le 2),
    squeezeAfter_sections solid, behind, between, ← List.append_assoc, ← List.cons_append,
    trimBreaks_append_feeds opens closes]
  simp

end Argline.Text
