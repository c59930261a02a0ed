/-
**Where a range literal is cut into tokens.**

A token that is cut in two at one of its separators makes the same literal as before: the pieces of
the two tokens are those of the one (`Piece.lexes_append_iff`), as long as no two separators follow
one another, which they never do in a range.

* `Range.ofTokens_recut`: the range read does not depend on the cut.
-/

import Argline.Proofs.Range.Grammar

namespace Argline

/-- Two separators follow one another somewhere. -/
def HasDouble (pieces : List Piece) : Prop := [Piece.separator, .separator] <:+: pieces

namespace Piece

/-! ### Pieces of fragments put together -/

theorem spellAll_singleton (fragment : List Char) (pieces : List Piece) :
    SpellAll [fragment] pieces ↔ Spells fragment pieces := by
  simp [SpellAll, List.forall₂_cons_left_iff]

theorem spellAll_cons {fragment : List Char} {rest : List (List Char)} (several : rest ≠ [])
    (pieces : List Piece) :
    SpellAll (fragment :: rest) pieces ↔
      ∃ part others, Spells fragment part ∧ SpellAll rest others ∧
        part ++ separator :: others = pieces := by
  obtain ⟨next, rest, rfl⟩ := List.exists_cons_of_ne_nil several
  constructor
  · rintro ⟨parts, spelled, rfl⟩
    obtain ⟨part, parts, first, others, rfl⟩ := List.forall₂_cons_left_iff.mp spelled
    obtain ⟨second, parts, _, _, rfl⟩ := List.forall₂_cons_left_iff.mp others
    exact ⟨part, _, first, ⟨_, others, rfl⟩, by simp [intercalate_cons]⟩
  · rintro ⟨part, _, first, ⟨parts, others, rfl⟩, rfl⟩
    obtain ⟨second, parts, _, _, rfl⟩ := List.forall₂_cons_left_iff.mp others
    exact ⟨part :: second :: parts, .cons first others, by simp [intercalate_cons]⟩

/-- Between the pieces of fragments and those of the fragments behind them there is a separator. -/
theorem spellAll_append {first second : List (List Char)} (some : first ≠ []) (more : second ≠ [])
    (pieces : List Piece) :
    SpellAll (first ++ second) pieces ↔
      ∃ front back, SpellAll first front ∧ SpellAll second back ∧
        front ++ separator :: back = pieces := by
  induction first generalizing pieces with
  | nil => exact absurd rfl some
  | cons fragment rest ih =>
    rw [List.cons_append, spellAll_cons (by simp [more])]
    by_cases single : rest = []
    · subst single
      simp only [List.nil_append, spellAll_singleton]
    · simp only [ih single, spellAll_cons single]
      constructor
      · rintro ⟨part, _, spelled, ⟨front, back, inside, behind, rfl⟩, rfl⟩
        exact ⟨_, back, ⟨part, front, spelled, inside, rfl⟩, behind, by simp⟩
      · rintro ⟨_, back, ⟨part, front, spelled, inside, rfl⟩, behind, rfl⟩
        exact ⟨part, _, spelled, ⟨front, back, inside, behind, rfl⟩, by simp⟩

/-- There is no point in a fragment that has pieces. -/
theorem SpellAll.point_notMem {fragments : List (List Char)} {pieces : List Piece}
    (spelled : SpellAll fragments pieces) {fragment : List Char} (member : fragment ∈ fragments) :
    '.' ∉ fragment := by
  obtain ⟨parts, each, _⟩ := spelled
  clear * - each member
  induction each with
  | nil => cases member
  | cons first _ ih =>
    rcases List.mem_cons.mp member with rfl | later
    · cases first with
      | nothing => exact List.not_mem_nil
      | number numeral => exact numeral.point_notMem
    · exact ih later

/-- The fragments of a token with its pieces. Only the first and the last fragment may be empty. -/
def Fits (fragments : List (List Char)) (pieces : List Piece) : Prop :=
  (∀ fragment ∈ fragments.tail.dropLast, fragment ≠ []) ∧ SpellAll fragments pieces

theorem lexes_iff (token : String) (pieces : List Piece) :
    Lexes token pieces ↔ token ≠ "" ∧ Fits (cutSeparators token.toList) pieces := by
  constructor
  · rintro ⟨nonempty, fragments, cut, fits⟩
    rw [(isCut_iff _ _).mp cut]
    exact ⟨nonempty, fits⟩
  · rintro ⟨nonempty, fits⟩
    exact ⟨nonempty, _, (isCut_iff _ _).mpr rfl, fits⟩

theorem fits_append_iff {first second : List (List Char)} (some : first ≠ []) (more : second ≠ [])
    (pieces : List Piece) :
    Fits (first ++ second) pieces ↔
      (∀ fragment ∈ first.tail ++ second.dropLast, fragment ≠ []) ∧
        ∃ front back, SpellAll first front ∧ SpellAll second back ∧
          front ++ separator :: back = pieces := by
  rw [Fits, spellAll_append some more, List.tail_append_of_ne_nil some,
    List.dropLast_append_of_ne_nil more]

/-- Fragments in front of a separator that begins the second token. -/
theorem fits_cut_before {inits rest : List (List Char)} {last : List Char} (more : rest ≠ [])
    (some : inits = [] → last ≠ []) {pieces : List Piece} (single : ¬ HasDouble pieces) :
    Fits ((inits ++ [last]) ++ rest) pieces ↔
      ∃ first second, Fits (inits ++ [last]) first ∧ Fits ([] :: rest) second ∧
        first ++ second = pieces := by
  rw [fits_append_iff (by simp) more]
  simp only [Fits, List.tail_cons, spellAll_cons more, spells_nil_iff]
  constructor
  · rintro ⟨inside, front, back, before, behind, rfl⟩
    refine ⟨front, separator :: back, ⟨fun fragment member => ?_, before⟩,
      ⟨fun fragment member => ?_, [], back, rfl, behind, rfl⟩, rfl⟩
    · exact inside fragment (List.mem_append_left _ (List.mem_of_mem_dropLast member))
    · exact inside fragment (List.mem_append_right _ member)
  · rintro ⟨front, _, ⟨inside, before⟩, ⟨insideBack, _, back, rfl, behind, rfl⟩, rfl⟩
    refine ⟨fun fragment member => ?_, front, back, before, behind, rfl⟩
    rcases List.mem_append.mp member with early | late
    · cases inits with
      | nil => cases early
      | cons head inits =>
        rcases List.mem_append.mp early with early | final
        · exact inside fragment (by simpa using early)
        · obtain rfl := List.mem_singleton.mp final
          rintro rfl
          -- An empty fragment would put two separators in a row.
          obtain ⟨earlier, _, _, spelled, rfl⟩ :=
            (spellAll_append (List.cons_ne_nil head inits) (List.cons_ne_nil [] []) front).mp before
          obtain rfl := (spells_nil_iff _).mp ((spellAll_singleton _ _).mp spelled)
          exact single ⟨earlier, back, by simp⟩
    · exact insideBack fragment late

/-- Fragments in front of a separator that ends the first token. -/
theorem fits_cut_behind {inits rest : List (List Char)} {next : List Char} (some : inits ≠ [])
    (apart : rest ≠ [] → next ≠ []) (pieces : List Piece) :
    Fits (inits ++ next :: rest) pieces ↔
      ∃ first second, Fits (inits ++ [[]]) first ∧ Fits (next :: rest) second ∧
        first ++ second = pieces := by
  have last : ([[]] : List (List Char)) ≠ [] := List.cons_ne_nil _ _
  simp only [fits_append_iff some (List.cons_ne_nil next rest), fits_append_iff some last,
    spellAll_singleton, spells_nil_iff]
  simp only [Fits, List.tail_cons, List.dropLast_singleton, List.append_nil]
  constructor
  · rintro ⟨inside, front, back, before, behind, rfl⟩
    refine ⟨front ++ [separator], back, ⟨fun fragment member => ?_, front, [], before, rfl, rfl⟩,
      ⟨fun fragment member => ?_, behind⟩, by simp⟩
    · exact inside fragment (List.mem_append_left _ member)
    · refine inside fragment (List.mem_append_right _ ?_)
      cases rest with
      | nil => cases member
      | cons second rest => exact List.mem_cons_of_mem _ member
  · rintro ⟨_, back, ⟨inside, front, _, before, rfl, rfl⟩, ⟨insideBack, behind⟩, rfl⟩
    refine ⟨fun fragment member => ?_, front, back, before, behind, by simp⟩
    rcases List.mem_append.mp member with early | late
    · exact inside fragment early
    · cases rest with
      | nil => cases late
      | cons second rest =>
        rcases List.mem_cons.mp late with rfl | late
        · exact apart (List.cons_ne_nil _ _)
        · exact insideBack fragment late

/-! ### Cutting at a separator -/

/-- A text whose first fragment is empty is empty itself or begins with a separator. -/
theorem separator_of_cutSeparators_nil {characters : List Char} {more : List (List Char)}
    (nonempty : characters ≠ []) (cut : cutSeparators characters = [] :: more) :
    ['.', '.'] <+: characters := by
  have isCut := (isCut_iff _ _).mpr cut
  clear cut
  generalize fragments : [] :: more = all at isCut
  cases isCut with
  | last => exact absurd (List.cons.inj fragments).1.symm nonempty
  | @behind fragment rest others free cut =>
    rw [← (List.cons.inj fragments).1]
    exact ⟨rest, rfl⟩

/-- A token that ends with one point too many stays without pieces, whatever follows. -/
theorem not_fits_of_point {inits : List (List Char)} {shorter back : List Char}
    (free : SeparatorFree (shorter ++ ['.']))
    (around : (inits ≠ [] ∧ shorter = []) ∨ ['.', '.'] <+: back) (pieces : List Piece) :
    ¬ Fits (inits ++ cutSeparators (shorter ++ '.' :: back)) pieces := by
  rintro ⟨inside, spelled⟩
  rcases cutSeparators_point back with ⟨tail, rfl⟩ | ⟨fragment, more, cut⟩
  · rw [cutSeparators_behind free, List.append_cons] at inside spelled
    rw [List.tail_append_of_ne_nil (by simp),
      List.dropLast_append_of_ne_nil (cutSeparators_ne_nil tail)] at inside
    rcases around with ⟨several, rfl⟩ | ⟨rest, front⟩
    · refine inside [] (List.mem_append_left _ ?_) rfl
      rw [List.tail_append_of_ne_nil several]
      exact List.mem_append_right _ List.mem_cons_self
    · obtain rfl : '.' :: rest = tail := (List.cons.inj front).2
      rcases cutSeparators_point rest with ⟨tail, rfl⟩ | ⟨fragment, more, cut⟩
      · rw [cutSeparators_separator] at inside
        refine inside [] (List.mem_append_right _ ?_) rfl
        rw [List.dropLast_cons_of_ne_nil (cutSeparators_ne_nil tail)]
        exact List.mem_cons_self
      · rw [cut] at spelled
        exact spelled.point_notMem (List.mem_append_right _ List.mem_cons_self)
          List.mem_cons_self
  · rcases around with ⟨_, rfl⟩ | ⟨rest, rfl⟩
    · rw [List.nil_append, cut] at spelled
      exact spelled.point_notMem (List.mem_append_right _ List.mem_cons_self) List.mem_cons_self
    · have front : cutSeparators ('.' :: (['.', '.'] ++ rest)) =
          [] :: cutSeparators ('.' :: rest) := cutSeparators_separator _
      rw [front] at cut
      cases cut

/-- **A token cut in two around a separator has the pieces of its two parts.** -/
theorem lexes_append_iff {front back : String} (some : front ≠ "") (more : back ≠ "")
    (around : ['.', '.'] <:+ front.toList ∨ ['.', '.'] <+: back.toList) {pieces : List Piece}
    (single : ¬ HasDouble pieces) :
    Lexes (front ++ back) pieces ↔
      ∃ first second, Lexes front first ∧ Lexes back second ∧ first ++ second = pieces := by
  obtain ⟨inits, last, cut⟩ := (List.eq_nil_or_concat' (cutSeparators front.toList)).resolve_left
    (cutSeparators_ne_nil _)
  have both : front ++ back ≠ "" := fun none => some (String.append_eq_empty_iff.mp none).1
  have present : back.toList ≠ [] := fun none => more (String.toList_eq_nil_iff.mp none)
  simp only [lexes_iff, String.toList_append, cutSeparators_append _ _ cut, cut, some, more, both,
    true_and, ne_eq, not_false_eq_true]
  have free := separatorFree_of_last cut
  -- a point at the end of the first part may make a separator with one behind it
  rcases separatorFree_append_point free with freePoint | ⟨shorter, rfl⟩
  · by_cases begins : ['.', '.'] <+: back.toList
    · obtain ⟨rest, text⟩ := begins
      have cutBack : cutSeparators back.toList = [] :: cutSeparators rest := by
        rw [← text]
        exact cutSeparators_separator rest
      have cutBoth : cutSeparators (last ++ back.toList) = last :: cutSeparators rest := by
        rw [← text]
        exact cutSeparators_behind freePoint rest
      rw [cutBack, cutBoth, List.append_cons]
      refine fits_cut_before (cutSeparators_ne_nil rest) ?_ single
      rintro rfl rfl
      have whole := (isCut_iff _ _).mpr cut
      generalize text : front.toList = characters at whole
      cases whole with
      | last => exact some (String.toList_eq_nil_iff.mp text)
      | behind _ cut => cases cut
    · obtain ⟨several, rfl | rfl⟩ := cutSeparators_endsWith (around.resolve_right begins) cut
      · obtain ⟨next, rest, cutBack⟩ := List.exists_cons_of_ne_nil
          (cutSeparators_ne_nil back.toList)
        rw [List.nil_append, cutBack]
        refine fits_cut_behind several (fun _ empty => begins ?_) pieces
        exact separator_of_cutSeparators_nil present (empty ▸ cutBack)
      · exact absurd (List.infix_rfl) freePoint
  · refine iff_of_false ?_ ?_
    · rw [List.append_assoc]
      refine not_fits_of_point free (around.imp_left fun ends => ?_) pieces
      obtain ⟨several, empty | point⟩ := cutSeparators_endsWith ends cut
      · simp at empty
      · exact ⟨several, by simpa using point⟩
    · rintro ⟨first, second, ⟨_, spelled⟩, _⟩
      exact spelled.point_notMem (List.mem_append_right _ List.mem_cons_self) (by simp)

end Piece

namespace Range

/-- No two separators follow one another in a range. -/
theorem Shape.not_hasDouble {pieces : List Piece} {range : Range} (shape : Shape pieces range) :
    ¬ HasDouble pieces := by
  cases shape with
  | two isGap first last => cases isGap <;> simp [HasDouble, List.infix_cons_iff]
  | three isGap isNext first second third =>
    cases isGap <;> cases isNext <;> simp [HasDouble, List.infix_cons_iff]

/-- **A literal does not depend on where it is cut around its separators.** -/
theorem isLiteral_recut (before after : List String) {front back : String} (some : front ≠ "")
    (more : back ≠ "") (around : ['.', '.'] <:+ front.toList ∨ ['.', '.'] <+: back.toList)
    (range : Range) :
    IsLiteral (before ++ (front ++ back) :: after) range ↔
      IsLiteral (before ++ front :: back :: after) range := by
  constructor
  · rintro ⟨pieces, lexed, shape⟩
    obtain ⟨early, _, lexedBefore, lexedRest, rfl⟩ := forall₂_append_left_iff.mp lexed
    obtain ⟨middle, late, lexedMiddle, lexedAfter, rfl⟩ := List.forall₂_cons_left_iff.mp lexedRest
    have single : ¬ HasDouble middle := fun double =>
      shape.not_hasDouble (double.trans ⟨early.flatten, late.flatten, by simp⟩)
    obtain ⟨first, second, lexedFirst, lexedSecond, rfl⟩ :=
      (Piece.lexes_append_iff some more around single).mp lexedMiddle
    exact ⟨early ++ first :: second :: late, List.rel_append lexedBefore
      (.cons lexedFirst (.cons lexedSecond lexedAfter)), by simpa using shape⟩
  · rintro ⟨pieces, lexed, shape⟩
    obtain ⟨early, _, lexedBefore, lexedRest, rfl⟩ := forall₂_append_left_iff.mp lexed
    obtain ⟨first, _, lexedFirst, lexedLast, rfl⟩ := List.forall₂_cons_left_iff.mp lexedRest
    obtain ⟨second, late, lexedSecond, lexedAfter, rfl⟩ := List.forall₂_cons_left_iff.mp lexedLast
    have single : ¬ HasDouble (first ++ second) := fun double =>
      shape.not_hasDouble (double.trans ⟨early.flatten, late.flatten, by simp⟩)
    have lexedMiddle := (Piece.lexes_append_iff some more around single).mpr
      ⟨first, second, lexedFirst, lexedSecond, rfl⟩
    exact ⟨early ++ (first ++ second) :: late, List.rel_append lexedBefore
      (.cons lexedMiddle lexedAfter), by simpa using shape⟩

end Range

end Argline
