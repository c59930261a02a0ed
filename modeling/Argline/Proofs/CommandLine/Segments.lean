/-
**Command lines made of segments.**

* `Segment.IsCut`: a segment as a command line is cut;
* `CommandLine.cut_eq_iff`: tokens are cut in the one way in which they can be put together again;
* `CommandLine.Spells`, `CommandLine.ofTokens_eq_iff`: the command lines that are segments and nothing
  else.
-/

import Argline.Proofs.CommandLine.Marks

namespace Argline

namespace Segment

/-- The tokens of a segment. -/
def spelling (segment : Segment) : List String := segment.mark.spelling :: segment.tokens

/-- A segment as a command line is cut: its first token is read as an option, and none of the others
is. -/
structure IsCut (table : List (String × Target)) (segment : Segment) : Prop where
  mark : Mark.ofToken? table segment.mark.spelling = some segment.mark
  tokens : ∀ token ∈ segment.tokens, Mark.ofToken? table token = none

theorem IsCut.lookup {table : List (String × Target)} {segment : Segment}
    (isCut : segment.IsCut table) : table.lookup segment.mark.flag = some segment.mark.target :=
  (Mark.spelling_of_ofToken? isCut.mark).2

end Segment

namespace CommandLine

variable {table : List (String × Target)}

/-- Tokens that are not read as options stand in front of the first segment. -/
theorem cut_append {front : List String} (plain : ∀ token ∈ front, Mark.ofToken? table token = none)
    (tokens : List String) :
    cut table (front ++ tokens) = (front ++ (cut table tokens).1, (cut table tokens).2) := by
  induction front with
  | nil => rfl
  | cons token front ih =>
    have none := plain token List.mem_cons_self
    rw [List.cons_append, cut, ih fun other member => plain other (List.mem_cons_of_mem _ member)]
    simp only [none, List.cons_append]

/-- Segments are cut as they are. -/
theorem cut_flatMap_spelling {segments : List Segment}
    (isCut : ∀ segment ∈ segments, segment.IsCut table) :
    cut table (segments.flatMap Segment.spelling) = ([], segments) := by
  induction segments with
  | nil => rfl
  | cons segment rest ih =>
    have first := isCut segment List.mem_cons_self
    have others := ih fun other member => isCut other (List.mem_cons_of_mem _ member)
    rw [List.flatMap_cons, Segment.spelling, List.cons_append, cut, cut_append first.tokens, others]
    simp only [first.mark, List.append_nil]

/-- **Tokens are cut in the one way in which they can be put together again.** -/
theorem cut_eq_iff (tokens leading : List String) (segments : List Segment) :
    cut table tokens = (leading, segments) ↔
      tokens = leading ++ segments.flatMap Segment.spelling ∧
        (∀ token ∈ leading, Mark.ofToken? table token = none) ∧
        ∀ segment ∈ segments, segment.IsCut table := by
  constructor
  · intro equal
    induction tokens generalizing leading segments with
    | nil =>
      cases equal
      simp
    | cons token rest ih =>
      obtain ⟨whole, plain, isCut⟩ := ih _ _ rfl
      rw [cut] at equal
      cases marked : Mark.ofToken? table token with
      | none =>
        simp only [marked, Prod.mk.injEq] at equal
        obtain ⟨rfl, rfl⟩ := equal
        refine ⟨by rw [List.cons_append, ← whole], ?_, isCut⟩
        rintro other (_ | ⟨_, member⟩)
        · exact marked
        · exact plain other member
      | some mark =>
        simp only [marked, Prod.mk.injEq] at equal
        obtain ⟨rfl, rfl⟩ := equal
        have spelled := (Mark.spelling_of_ofToken? marked).1
        refine ⟨?_, by simp, ?_⟩
        · rw [List.flatMap_cons, Segment.spelling, List.nil_append, List.cons_append, ← whole,
            spelled]
        · rintro segment (_ | ⟨_, member⟩)
          · exact ⟨spelled.symm ▸ marked, plain⟩
          · exact isCut segment member
  · rintro ⟨rfl, plain, isCut⟩
    rw [cut_append plain, cut_flatMap_spelling isCut, List.append_nil]

/-! ### Command lines that are not terminated -/

/-- Tokens that are segments and nothing else. -/
structure Spells (table : List (String × Target)) (segments : List Segment) (tokens : List String) :
    Prop where
  spelled : tokens = segments.flatMap Segment.spelling
  isCut : ∀ segment ∈ segments, segment.IsCut table
  unterminated : terminator ∉ tokens

/-- **A command line is segments and nothing else exactly if it is cut into them.** -/
theorem ofTokens_eq_iff (tokens : List String) (segments : List Segment) :
    ofTokens table tokens = ⟨[], segments, []⟩ ↔ Spells table segments tokens := by
  simp only [ofTokens, mk.injEq, dropWhile_ne_eq_nil_iff]
  constructor
  · rintro ⟨leading, rfl, absent⟩
    rw [takeWhile_ne_of_notMem absent] at leading ⊢
    obtain ⟨rejoined, _, isCut⟩ := (cut_eq_iff tokens _ _).mp (Prod.ext leading rfl)
    exact ⟨rejoined, isCut, absent⟩
  · rintro ⟨rejoined, isCut, absent⟩
    rw [takeWhile_ne_of_notMem absent, rejoined, cut_flatMap_spelling isCut]
    exact ⟨rfl, rfl, rejoined ▸ absent⟩

/-- Tokens with none in front of the segments and none behind them are the segments. -/
theorem spells_of_ofTokens {tokens : List String} (leading : (ofTokens table tokens).leading = [])
    (trailing : (ofTokens table tokens).trailing = []) :
    Spells table (ofTokens table tokens).segments tokens := by
  rw [← ofTokens_eq_iff]
  generalize ofTokens table tokens = line at leading trailing ⊢
  obtain ⟨front, segments, back⟩ := line
  cases leading
  cases trailing
  rfl

end CommandLine

end Argline
