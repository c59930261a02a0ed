/-
**What is read as a range.**

* `Range.refused_or_overlong`: tokens that are no literal are refused, unless one of their fragments
  has too many digits to be read at all;
* `Range.ofTokens_text`: a range is read back from its canonical text;
* `Range.ofTokens_reads_literals`: what is read as a range, what becomes of everything else, and that
  the cut of the tokens around separators does not matter.
-/

import Argline.Proofs.Range.Recut

namespace Argline

/-- A token one of whose fragments spells an integer of `count` digits, too many to be read. -/
def IsOverlong (token : String) (count : Nat) : Prop :=
  ∃ fragments, IsCut token.toList fragments ∧
    ∃ fragment ∈ fragments, Piece.Oversized fragment count

/-- Only a long token is too long. -/
theorem IsOverlong.length_lt {token : String} {count : Nat} (long : IsOverlong token count) :
    digitLimit < token.toList.length := by
  obtain ⟨fragments, cut, fragment, member, digits, value, numeral, length, beyond⟩ := long
  have within := cut.length_le fragment member
  have shorter := numeral.length_digits_le
  omega

namespace Cursor

theorem remaining_of_next? {cursor next : Cursor} {token : String}
    (moved : cursor.next? = some (token, next)) :
    cursor.remaining = token :: next.remaining := by
  unfold next? at moved
  split at moved
  · cases moved
  · next head rest equal =>
    split at moved
    · cases moved
    · cases moved
      exact equal

end Cursor

namespace Range

/-- A failure that is a refusal of a range, unless one of the tokens is too long. -/
def FailsOn (tokens : List String) (halt : Halt Rejection) : Prop :=
  (∃ shown fault, halt = .refused (.range shown fault)) ∨
    ∃ token ∈ tokens, ∃ count, IsOverlong token count ∧ halt = .broken (.integerTooLong count)

theorem pushToken_error {assembly : Assembly} {token : String} {halt : Halt RangeFault}
    (fails : assembly.pushToken token = .error halt) :
    (∃ fault, halt = .refused fault) ∨
      ∃ count, IsOverlong token count ∧ halt = .broken (.integerTooLong count) := by
  unfold Assembly.pushToken at fails
  split at fails
  · next cause unreadable =>
    cases fails
    refine (Piece.excused_of_ofToken unreadable).imp_right ?_
    rintro ⟨fragment, member, count, oversized, rfl⟩
    exact ⟨count, ⟨_, (Piece.isCut_iff _ _).mpr rfl, fragment, member, oversized⟩, rfl⟩
  · split at fails
    · cases fails
      exact .inl ⟨_, rfl⟩
    · cases fails

theorem failsOn_of_close {assembly : Assembly} {consumed tokens : List String}
    {halt : Halt Rejection} (fails : close assembly consumed = .error halt) :
    FailsOn tokens halt := by
  unfold close at fails
  split at fails
  · cases fails
  · cases fails
    exact .inl ⟨_, _, rfl⟩

/-- Reading on fails on the tokens that are left. -/
theorem failsOn_of_readFrom {assembly : Assembly} {consumed : List String} {cursor : Cursor}
    {halt : Halt Rejection} (fails : (readFrom assembly consumed cursor).1 = .error halt) :
    FailsOn cursor.remaining halt := by
  induction tokens : cursor.remaining generalizing assembly consumed cursor with
  | nil =>
    have atEnd : cursor.next? = none := by simp [Cursor.next?, tokens]
    rw [readFrom_of_atEnd atEnd] at fails
    exact failsOn_of_close fails
  | cons token rest ih =>
    by_cases complete : assembly.isComplete = true
    · rw [readFrom, if_pos complete] at fails
      exact failsOn_of_close fails
    · cases moved : cursor.next? with
      | none =>
        rw [readFrom_of_atEnd moved] at fails
        exact failsOn_of_close fails
      | some step =>
        obtain ⟨head, next⟩ := step
        obtain ⟨rfl, rfl⟩ : head = token ∧ next.remaining = rest :=
          List.cons.inj ((Cursor.remaining_of_next? moved).symm.trans tokens)
        rw [readFrom_of_next? complete moved] at fails
        cases pushed : assembly.pushToken head with
        | error cause =>
          rw [pushed] at fails
          rcases pushToken_error pushed with ⟨fault, rfl⟩ | ⟨count, overlong, rfl⟩
          · cases fails
            exact .inl ⟨_, _, rfl⟩
          · cases fails
            exact .inr ⟨head, List.mem_cons_self, count, overlong, rfl⟩
        | ok longer =>
          rw [pushed] at fails
          refine (ih fails rfl).imp_right ?_
          rintro ⟨token, member, broken⟩
          exact ⟨token, List.mem_cons_of_mem _ member, broken⟩

/-- **Tokens are refused if they are no literal**, unless one of them is too long to be read. -/
theorem refused_or_overlong {tokens : List String} {halt : Halt Rejection}
    (fails : ofTokens tokens = .error halt) : FailsOn tokens halt := by
  unfold ofTokens at fails
  split at fails
  · next cause last equal =>
    cases fails
    have failed : (readFrom .start [] (Cursor.ofTokens tokens)).1 = .error halt :=
      congrArg Prod.fst equal
    exact failsOn_of_readFrom failed
  · split at fails
    · cases fails
    · cases fails
      exact .inl ⟨_, _, rfl⟩

/-! ### Canonical texts -/

/-- A number in front of a separator. -/
theorem isCut_integerChars (number : Int) {rest : List Char} {fragments : List (List Char)}
    (cut : IsCut rest fragments) :
    IsCut (integerChars number ++ '.' :: '.' :: rest) (integerChars number :: fragments) := by
  have absent := (numeral_integerChars number).point_notMem
  rcases Piece.separatorFree_append_point (Piece.separatorFree_of_point_notMem absent) with
    free | ⟨shorter, equal⟩
  · exact .behind free cut
  · exact absurd (equal ▸ by simp) absent

theorem spells_integerChars (word : Word) :
    Piece.Spells (integerChars word.value) [.number word] :=
  .number (numeral_integerChars word.value) word.isWritable

theorem lexes_text (range : Range) :
    Piece.Lexes range.text
      [.number range.start, .separator, .number range.step, .separator, .number range.stop] where
  nonempty := by
    intro empty
    have absurdity := congrArg String.toList empty
    simp [text] at absurdity
  fragments := by
    refine ⟨[integerChars range.start.value, integerChars range.step.value,
      integerChars range.stop.value], ?_, ?_, [[.number range.start], [.number range.step],
      [.number range.stop]], ?_, rfl⟩
    · have last : IsCut (integerChars range.stop.value) [integerChars range.stop.value] :=
        .last (Piece.separatorFree_of_point_notMem (numeral_integerChars _).point_notMem)
      simpa [text, Word.text] using isCut_integerChars range.start.value
        (isCut_integerChars range.step.value last)
    · simpa using (numeral_integerChars range.step.value).ne_nil
    · exact .cons (spells_integerChars _) (.cons (spells_integerChars _)
        (.cons (spells_integerChars _) .nil))

/-- **A range is read back from its canonical text.** -/
theorem ofTokens_text (range : Range) : ofTokens [range.text] = .ok range :=
  (ofTokens_eq_ok_iff _ _).mpr ⟨_, .cons (lexes_text range) .nil,
    .three .separator .separator range.start range.step range.stop⟩

/-! ### All lists of tokens -/

/-- **Tokens are read as a range exactly if they are a literal of it.** All other tokens are refused,
unless one of them has too many digits between two separators. It does not matter where a text is cut
into tokens, as long as it is cut around separators. -/
theorem ofTokens_reads_literals (tokens : List String) :
    (∀ range, ofTokens tokens = .ok range ↔ IsLiteral tokens range) ∧
    ((∃ range, IsLiteral tokens range) ∨
      (∃ shown fault, ofTokens tokens = .error (.refused (.range shown fault))) ∨
      ∃ token ∈ tokens, ∃ count, IsOverlong token count ∧
        ofTokens tokens = .error (.broken (.integerTooLong count))) ∧
    ∀ before after front back, tokens = before ++ (front ++ back) :: after →
      front ≠ "" → back ≠ "" → (['.', '.'] <:+ front.toList ∨ ['.', '.'] <+: back.toList) →
      ∀ range, ofTokens (before ++ front :: back :: after) = .ok range ↔
        ofTokens tokens = .ok range := by
  refine ⟨ofTokens_eq_ok_iff tokens, ?_, ?_⟩
  · cases outcome : ofTokens tokens with
    | ok range => exact .inl ⟨range, (ofTokens_eq_ok_iff _ _).mp outcome⟩
    | error halt =>
      refine .inr ?_
      rcases refused_or_overlong outcome with ⟨shown, fault, rfl⟩ | ⟨token, member, count, long, rfl⟩
      · exact .inl ⟨shown, fault, rfl⟩
      · exact .inr ⟨token, member, count, long, rfl⟩
  · rintro before after front back rfl some more around range
    rw [ofTokens_eq_ok_iff, ofTokens_eq_ok_iff]
    exact (isLiteral_recut before after some more around range).symm

/-- One range read from its canonical text and from two tokens that are cut around a separator. -/
theorem ofTokens_reads_literals_recut :
    let range : Range := ⟨⟨0, by decide, by decide⟩, ⟨2, by decide, by decide⟩,
      ⟨-10, by decide, by decide⟩⟩
    ofTokens ["0..2..-10"] = .ok range ∧ ofTokens ["0..2", "..-10"] = .ok range := by
  intro range
  have written : range.text = "0..2..-10" := by decide
  have whole : ofTokens ["0..2..-10"] = .ok range := written ▸ ofTokens_text range
  exact ⟨whole, ((ofTokens_reads_literals ["0..2..-10"]).2.2 [] [] "0..2" "..-10" rfl (by decide)
    (by decide) (.inr ⟨['-', '1', '0'], rfl⟩) range).mpr whole⟩

end Range

end Argline
