/-
**Cutting a text at its separators.**

* `IsCut`: the fragments of a text between its separators, which are found from left to right and do
  not overlap;
* `isCut_iff`: `Piece.cutSeparators` finds these fragments and no others;
* `cutSeparators_append`: the fragments of two texts put together, of which all but the last of the
  first text stay as they are.
-/

import Argline.Range.Literal
import Mathlib.Data.List.Infix
import Mathlib.Tactic.Common

namespace Argline

/-- No separator lies within the characters. -/
def SeparatorFree (characters : List Char) : Prop := ¬ ['.', '.'] <:+: characters

/-- The fragments of a text. The first separator of a text is the one behind its first fragment, so
that no separator ends earlier. -/
inductive IsCut : List Char → List (List Char) → Prop
  | last {fragment : List Char} (free : SeparatorFree fragment) : IsCut fragment [fragment]
  | behind {fragment rest : List Char} {fragments : List (List Char)}
      (free : SeparatorFree (fragment ++ ['.'])) (cut : IsCut rest fragments) :
      IsCut (fragment ++ '.' :: '.' :: rest) (fragment :: fragments)

/-- No fragment is longer than the text. -/
theorem IsCut.length_le {characters : List Char} {fragments : List (List Char)}
    (cut : IsCut characters fragments) :
    ∀ fragment ∈ fragments, fragment.length ≤ characters.length := by
  induction cut with
  | last free => simp
  | behind free cut ih =>
    rw [List.forall_mem_cons, List.length_append, List.length_cons, List.length_cons]
    refine ⟨by omega, fun other member => ?_⟩
    have := ih other member
    omega

namespace Piece

/-! ### One character more -/

theorem separatorFree_cons_iff (c : Char) (rest : List Char) :
    SeparatorFree (c :: rest) ↔ ¬ ['.', '.'] <+: c :: rest ∧ SeparatorFree rest := by
  rw [SeparatorFree, List.infix_cons_iff, not_or, SeparatorFree]

/-- Whether a separator lies in front is settled by the two characters there. -/
theorem separator_prefix_append (c next : Char) (fragment rest : List Char) :
    ['.', '.'] <+: c :: (fragment ++ next :: rest) ↔ ['.', '.'] <+: c :: (fragment ++ [next]) := by
  cases fragment with
  | nil => simp
  | cons second fragment => simp

theorem separatorFree_of_point_notMem {characters : List Char} (absent : '.' ∉ characters) :
    SeparatorFree characters := by
  intro inside
  exact absent (inside.subset List.mem_cons_self)

/-- A separator in front is cut off. -/
@[simp]
theorem cutSeparators_separator (rest : List Char) :
    cutSeparators ('.' :: '.' :: rest) = [] :: cutSeparators rest := by
  rw [cutSeparators]

theorem cutSeparators_ne_nil (characters : List Char) : cutSeparators characters ≠ [] := by
  fun_cases cutSeparators characters with
  | case1 => simp
  | case2 rest => simp
  | case3 c rest _ none => simp
  | case4 c rest _ fragment more equal => simp

/-- Any other character belongs to the first fragment. -/
theorem cutSeparators_cons {c : Char} {rest : List Char} (apart : ¬ ['.', '.'] <+: c :: rest)
    {fragment : List Char} {more : List (List Char)}
    (cut : cutSeparators rest = fragment :: more) :
    cutSeparators (c :: rest) = (c :: fragment) :: more := by
  rw [cutSeparators, cut]
  rintro tail rfl rfl
  exact apart ⟨tail, rfl⟩

/-- A text is empty, or it begins with a separator, or with a character of its first fragment. -/
@[elab_as_elim]
theorem cutSeparators_induction {motive : List Char → Prop} (characters : List Char)
    (nil : motive [])
    (separator : ∀ rest, motive rest → motive ('.' :: '.' :: rest))
    (character : ∀ c rest fragment more, ¬ ['.', '.'] <+: c :: rest →
      cutSeparators rest = fragment :: more → motive rest → motive (c :: rest)) :
    motive characters := by
  induction characters using cutSeparators.induct with
  | case1 => exact nil
  | case2 rest ih => exact separator rest ih
  | case3 c rest _ none => exact absurd none (cutSeparators_ne_nil rest)
  | case4 c rest apart fragment more equal ih =>
    refine character c rest fragment more ?_ equal ih
    rintro ⟨tail, front⟩
    obtain ⟨rfl, rfl⟩ := List.cons.inj front
    exact apart tail rfl rfl

/-! ### Fragments -/

theorem cutSeparators_of_separatorFree {characters : List Char}
    (free : SeparatorFree characters) : cutSeparators characters = [characters] := by
  induction characters with
  | nil => rfl
  | cons c rest ih =>
    rw [separatorFree_cons_iff] at free
    exact cutSeparators_cons free.1 (ih free.2)

theorem cutSeparators_behind {fragment : List Char} (free : SeparatorFree (fragment ++ ['.']))
    (rest : List Char) :
    cutSeparators (fragment ++ '.' :: '.' :: rest) = fragment :: cutSeparators rest := by
  induction fragment with
  | nil => exact cutSeparators_separator rest
  | cons c fragment ih =>
    rw [List.cons_append, separatorFree_cons_iff] at free
    refine cutSeparators_cons ?_ (ih free.2)
    exact fun separator => free.1 ((separator_prefix_append _ _ _ _).mp separator)

/-- **A text has the fragments that it is cut into, and no others.** -/
theorem isCut_iff (characters : List Char) (fragments : List (List Char)) :
    IsCut characters fragments ↔ cutSeparators characters = fragments := by
  constructor
  · intro cut
    induction cut with
    | last free => exact cutSeparators_of_separatorFree free
    | behind free cut ih => rw [cutSeparators_behind free, ih]
  · rintro rfl
    induction characters using cutSeparators_induction with
    | nil => exact .last (separatorFree_of_point_notMem List.not_mem_nil)
    | separator rest ih =>
      rw [cutSeparators_separator]
      have free : SeparatorFree ([] ++ ['.']) := by simp [SeparatorFree, List.infix_cons_iff]
      exact .behind free ih
    | character c rest fragment more apart equal ih =>
      rw [cutSeparators_cons apart equal]
      rw [equal] at ih
      cases ih with
      | last free => exact .last ((separatorFree_cons_iff _ _).mpr ⟨apart, free⟩)
      | behind free cut =>
        rw [separator_prefix_append] at apart
        have longer : SeparatorFree ((c :: fragment) ++ ['.']) :=
          (separatorFree_cons_iff _ _).mpr ⟨apart, free⟩
        exact .behind longer cut

/-- No separator lies within the last fragment. -/
theorem separatorFree_of_last {characters last : List Char} {inits : List (List Char)}
    (cut : cutSeparators characters = inits ++ [last]) : SeparatorFree last := by
  have isCut := (isCut_iff _ _).mpr cut
  clear cut
  generalize all : inits ++ [last] = fragments at isCut
  induction isCut generalizing inits with
  | last free =>
    obtain ⟨rfl, rfl⟩ := List.append_eq_singleton_iff.mp all |>.resolve_right (by simp)
      |>.imp_right fun equal => List.cons.inj equal |>.1
    exact free
  | behind free cut ih =>
    cases inits with
    | nil =>
      cases List.cons.inj all |>.2
      cases cut
    | cons head inits => exact ih (List.cons.inj all).2

/-- A point behind a fragment makes a separator only with a point at its end. -/
theorem separatorFree_append_point {fragment : List Char} (free : SeparatorFree fragment) :
    SeparatorFree (fragment ++ ['.']) ∨ ∃ shorter, fragment = shorter ++ ['.'] := by
  by_cases ends : ['.'] <:+ fragment
  · obtain ⟨shorter, rfl⟩ := ends
    exact .inr ⟨shorter, rfl⟩
  · refine .inl fun inside => ?_
    rcases List.infix_concat_iff.mp inside with atEnd | within
    · refine ends ?_
      obtain ⟨front, equal⟩ := atEnd
      have same : (front ++ ['.']) ++ ['.'] = fragment ++ ['.'] := by simpa using equal
      exact ⟨front, List.append_cancel_right same⟩
    · exact free within

/-- A text that begins with a point begins with a separator, or its first fragment does with the
point. -/
theorem cutSeparators_point (rest : List Char) :
    (∃ tail, rest = '.' :: tail) ∨
      ∃ fragment more, cutSeparators ('.' :: rest) = ('.' :: fragment) :: more := by
  by_cases front : ∃ tail, rest = '.' :: tail
  · exact .inl front
  · obtain ⟨fragment, more, cut⟩ := List.exists_cons_of_ne_nil (cutSeparators_ne_nil rest)
    refine .inr ⟨fragment, more, cutSeparators_cons ?_ cut⟩
    rintro ⟨tail, equal⟩
    exact front ⟨tail, (List.cons.inj equal).2.symm⟩

/-! ### Two texts put together -/

/-- **Behind a text, only its last fragment goes on.** -/
theorem cutSeparators_append (first second : List Char) {inits : List (List Char)}
    {last : List Char} (cut : cutSeparators first = inits ++ [last]) :
    cutSeparators (first ++ second) = inits ++ cutSeparators (last ++ second) := by
  induction first using cutSeparators_induction generalizing inits with
  | nil =>
    obtain ⟨rfl, rfl⟩ : inits = [] ∧ last = [] := by
      cases inits <;> simp_all [cutSeparators]
    rfl
  | separator rest ih =>
    rw [cutSeparators_separator] at cut
    cases inits with
    | nil => exact absurd (List.cons.inj cut).2 (cutSeparators_ne_nil rest)
    | cons head inits =>
      obtain ⟨rfl, tail⟩ := List.cons.inj cut
      simp [ih tail]
  | character c rest fragment more apart equal ih =>
    rw [cutSeparators_cons apart equal] at cut
    cases inits with
    | nil =>
      -- The whole first text is one fragment.
      obtain ⟨rfl, rfl⟩ : c :: fragment = last ∧ more = [] := List.cons.inj cut
      have whole := (isCut_iff rest [fragment]).mpr equal
      cases whole with
      | last => rfl
      | behind _ cut => cases cut
    | cons head inits =>
      obtain ⟨rfl, rfl⟩ : c :: fragment = head ∧ more = inits ++ [last] := List.cons.inj cut
      have cutRest : cutSeparators rest = (fragment :: inits) ++ [last] := equal
      refine cutSeparators_cons ?_ (ih cutRest)
      -- A text with several fragments is longer than one character.
      cases rest with
      | nil => simp [cutSeparators] at equal
      | cons second rest => simpa using apart

/-- A text that ends with a separator ends with an empty fragment, unless three points in a row make
the last of them a fragment. -/
theorem cutSeparators_endsWith {characters last : List Char} {inits : List (List Char)}
    (ends : ['.', '.'] <:+ characters) (cut : cutSeparators characters = inits ++ [last]) :
    inits ≠ [] ∧ (last = [] ∨ last = ['.']) := by
  obtain ⟨front, rfl⟩ := ends
  obtain ⟨before, final, cutFront⟩ :=
    (List.eq_nil_or_concat' (cutSeparators front)).resolve_left (cutSeparators_ne_nil front)
  rw [cutSeparators_append _ _ cutFront] at cut
  rcases separatorFree_append_point (separatorFree_of_last cutFront) with free | ⟨shorter, rfl⟩
  · rw [cutSeparators_behind free, List.append_cons] at cut
    obtain ⟨rfl, equal⟩ := List.append_inj' cut rfl
    exact ⟨by simp, .inl (List.cons.inj equal).1.symm⟩
  · rw [List.append_assoc] at cut
    rw [List.singleton_append, cutSeparators_behind (separatorFree_of_last cutFront),
      List.append_cons] at cut
    obtain ⟨rfl, equal⟩ := List.append_inj' cut rfl
    exact ⟨by simp, .inr (List.cons.inj equal).1.symm⟩

end Piece

end Argline
