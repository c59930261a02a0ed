/-
**What reading a range takes from the cursor.**

Reading goes on for as long as the tokens make up an assembly that is not complete
(`Range.readFrom_of_foldlM`), and it stops for one of three reasons (`Range.Stops`): the assembly is
complete, there is no token left in front of the next flag, or the next token does not fit. As no token
fits a complete assembly, the tokens taken say by themselves which of the reasons it was, and what is
behind them has no say.

* `Range.HoldNumbers`: tokens with a number of numbers among their pieces;
* `Range.exists_stop`: the way to the place where reading stops;
* `Range.read_consumes`: reading consumes one literal, whatever comes behind it, and a refusal shows the
  tokens consumed.
-/

import Argline.Proofs.Cursor
import Argline.Proofs.Range.Grammar

namespace Argline

namespace Assembly

/-- The number of numbers in an assembly. -/
def size : Assembly → Nat
  | .start => 0
  | .one _ | .oneOpen _ => 1
  | .two _ _ | .twoOpen _ _ => 2
  | .three _ _ _ => 3

theorem isComplete_iff (assembly : Assembly) : assembly.isComplete = true ↔ assembly.size = 3 := by
  cases assembly <;> simp [isComplete, size]

theorem size_lt_of_incomplete {assembly : Assembly} (incomplete : ¬ assembly.isComplete = true) :
    assembly.size < 3 := by
  cases assembly with
  | three => exact absurd rfl incomplete
  | _ => simp [size]

/-- An assembly that can come to its end has two numbers, or is complete. -/
theorem size_of_finish {assembly : Assembly} {range : Range}
    (finished : assembly.finish = .ok range) (incomplete : ¬ assembly.isComplete = true) :
    assembly.size = 2 := by
  cases assembly with
  | two => rfl
  | three => exact absurd rfl incomplete
  | _ => cases finished

/-- The numbers of an assembly are those among its pieces. -/
theorem MadeOf.countP {assembly : Assembly} {pieces : List Piece} (made : assembly.MadeOf pieces) :
    pieces.countP (· ≠ .separator) = assembly.size := by
  cases made with
  | start => rfl
  | one first => rfl
  | oneOpen first => rfl
  | two isGap first second => cases isGap <;> rfl
  | twoOpen isGap first second => cases isGap <;> rfl
  | three isGap isNext first second third => cases isGap <;> cases isNext <;> rfl

end Assembly

namespace Range

/-- Tokens that have pieces, and this number of numbers among them. -/
def HoldNumbers (tokens : List String) (count : Nat) : Prop :=
  ∃ pieces, List.Forall₂ Piece.Lexes tokens pieces ∧
    pieces.flatten.countP (· ≠ .separator) = count

theorem holdNumbers_of_foldlM {tokens : List String} {assembly : Assembly}
    (folded : tokens.foldlM Assembly.pushToken .start = .ok assembly) :
    HoldNumbers tokens assembly.size := by
  obtain ⟨pieces, lexed, folded⟩ := (foldlM_pushToken_eq_ok_iff _ _ _).mp folded
  exact ⟨pieces, lexed, ((Assembly.foldlM_push_iff _ _).mp folded).countP⟩

/-- Tokens that make up a complete assembly hold fewer numbers without the last of them. -/
theorem holdNumbers_dropLast {tokens : List String} {assembly : Assembly} (nonempty : tokens ≠ [])
    (folded : tokens.foldlM Assembly.pushToken .start = .ok assembly) :
    ∃ fewer < 3, HoldNumbers tokens.dropLast fewer := by
  rw [← List.dropLast_concat_getLast nonempty, List.foldlM_append] at folded
  obtain ⟨earlier, before, folded⟩ := bind_eq_ok_iff.mp folded
  obtain ⟨later, pushed, _⟩ := bind_eq_ok_iff.mp folded
  have incomplete : ¬ earlier.isComplete = true := fun complete =>
    pushToken_of_isComplete complete _ later pushed
  exact ⟨_, Assembly.size_lt_of_incomplete incomplete, holdNumbers_of_foldlM before⟩

theorem isLiteral_of_foldlM {tokens : List String} {assembly : Assembly} {range : Range}
    (folded : tokens.foldlM Assembly.pushToken .start = .ok assembly)
    (finished : assembly.finish = .ok range) : IsLiteral tokens range := by
  obtain ⟨pieces, lexed, folded⟩ := (foldlM_pushToken_eq_ok_iff _ _ _).mp folded
  exact ⟨pieces, lexed, (shape_iff _ _).mpr ⟨assembly, folded, finished⟩⟩

/-! ### The way to the end of a literal -/

variable {cursor last : Cursor} {tokens : List String}

/-- Reading stops at a cursor: the assembly is complete, or no token is left in front of a flag, or the
next one does not fit. -/
inductive Stops (assembly : Assembly) (cursor : Cursor) : Prop
  | complete (complete : assembly.isComplete = true)
  | atEnd (atEnd : cursor.next? = none)
  | misfit {token : String} {next : Cursor} {halt : Halt RangeFault}
    (incomplete : ¬ assembly.isComplete = true) (moved : cursor.next? = some (token, next))
    (fails : assembly.pushToken token = .error halt)

/-- **Reading goes on along tokens that make up an assembly.** -/
theorem readFrom_of_foldlM {assembly final : Assembly} (consumed : List String)
    (way : cursor.Takes tokens last)
    (folded : tokens.foldlM Assembly.pushToken assembly = .ok final) :
    readFrom assembly consumed cursor = readFrom final (consumed ++ tokens) last := by
  induction tokens generalizing cursor assembly consumed with
  | nil =>
    obtain rfl : assembly = final := Except.ok.inj folded
    obtain rfl : last = cursor := by
      obtain ⟨_, taken, remaining, isFlag⟩ := way
      cases cursor
      cases last
      simp_all
    rw [List.append_nil]
  | cons token rest ih =>
    rw [List.foldlM_cons] at folded
    obtain ⟨longer, pushed, folded⟩ := bind_eq_ok_iff.mp folded
    have incomplete : ¬ assembly.isComplete = true := fun complete =>
      pushToken_of_isComplete complete token longer pushed
    obtain ⟨next, moved, way⟩ := way.uncons
    rw [readFrom_of_next? incomplete moved, pushed]
    dsimp only
    rw [ih (consumed ++ [token]) way folded, List.append_assoc, List.singleton_append]

/-- **From every cursor there is a way to a place where reading stops.** -/
theorem exists_stop (assembly : Assembly) (cursor : Cursor) :
    ∃ tokens last final, cursor.Takes tokens last ∧
      tokens.foldlM Assembly.pushToken assembly = .ok final ∧ Stops final last := by
  induction left : cursor.remaining.length using Nat.strongRecOn generalizing assembly cursor with
  | ind size ih =>
    by_cases complete : assembly.isComplete = true
    · exact ⟨[], cursor, assembly, .nothing cursor, rfl, .complete complete⟩
    · cases moved : cursor.next? with
      | none => exact ⟨[], cursor, assembly, .nothing cursor, rfl, .atEnd moved⟩
      | some step =>
        obtain ⟨token, next⟩ := step
        cases pushed : assembly.pushToken token with
        | error halt =>
          exact ⟨[], cursor, assembly, .nothing cursor, rfl, .misfit complete moved pushed⟩
        | ok longer =>
          have shorter := left ▸ Cursor.remaining_lt_of_next? moved
          obtain ⟨tokens, last, final, way, folded, stops⟩ := ih _ shorter longer next rfl
          refine ⟨token :: tokens, last, final, (Cursor.Takes.of_next? moved).trans way, ?_, stops⟩
          rw [List.foldlM_cons, pushed]
          exact folded

theorem readFrom_of_stops {final : Assembly} {consumed : List String}
    (stops : final.isComplete = true ∨ last.next? = none) :
    readFrom final consumed last = (close final consumed, last) := by
  rcases stops with complete | atEnd
  · rw [readFrom, if_pos complete]
  · exact readFrom_of_atEnd atEnd

theorem close_eq_error {assembly : Assembly} {consumed shown : List String} {fault : RangeFault}
    (fails : close assembly consumed = .error (.refused (.range shown fault))) :
    shown = consumed := by
  unfold close at fails
  split at fails
  · cases fails
  · cases fails
    rfl

/-- What a reading that has come to a place has to do with the tokens taken on the way. -/
structure Consumes (cursor : Cursor) (tokens : List String)
    (reading : Except (Halt Rejection) Range × Cursor) : Prop where
  way : cursor.Takes tokens reading.2
  accepted : ∀ range, reading.1 = .ok range → ∃ final,
    tokens.foldlM Assembly.pushToken .start = .ok final ∧ final.finish = .ok range ∧
      (final.isComplete = true ∨ reading.2.next? = none)
  refused : ∀ shown fault, reading.1 = .error (.refused (.range shown fault)) → shown = tokens

theorem exists_consumes (cursor : Cursor) : ∃ tokens, Consumes cursor tokens (read cursor) := by
  obtain ⟨tokens, last, final, way, folded, stops⟩ := exists_stop .start cursor
  have run : read cursor = readFrom final tokens last := readFrom_of_foldlM [] way folded
  have closed (ends : final.isComplete = true ∨ last.next? = none) :
      Consumes cursor tokens (read cursor) := by
    rw [run, readFrom_of_stops ends]
    exact ⟨way, fun range accepted => ⟨final, folded, (close_eq_ok_iff _ _ _).mp accepted, ends⟩,
      fun _ _ => close_eq_error⟩
  cases stops with
  | complete complete => exact ⟨tokens, closed (.inl complete)⟩
  | atEnd atEnd => exact ⟨tokens, closed (.inr atEnd)⟩
  | @misfit token next halt incomplete moved fails =>
    refine ⟨tokens ++ [token], ?_⟩
    have behind := way.trans (Cursor.Takes.of_next? moved)
    rw [run, readFrom_of_next? incomplete moved, fails]
    cases halt with
    | refused fault =>
      refine ⟨behind, fun _ accepted => (nomatch accepted), fun shown other refused => ?_⟩
      cases refused
      rfl
    | broken breakage =>
      exact ⟨behind, fun _ accepted => (nomatch accepted), fun _ _ refused => nomatch refused⟩

/-- A literal is read again in front of other tokens that do not go on with it. -/
theorem read_continued {final : Assembly} {range : Range} (other : List String)
    (way : cursor.Takes tokens last)
    (folded : tokens.foldlM Assembly.pushToken .start = .ok final)
    (finished : final.finish = .ok range)
    (ends : final.isComplete = true ∨ ∀ token ∈ other.head?, cursor.isFlag token = true) :
    (read (cursor.continued last.position other)).1 = .ok range ∧
      (read (cursor.continued last.position other)).2.position = last.position := by
  have stops : final.isComplete = true ∨
      ({ last with remaining := other } : Cursor).next? = none := by
    refine ends.imp_right fun flag => ?_
    cases other with
    | nil => rfl
    | cons token rest =>
      have flag := flag token rfl
      rw [← way.isFlag] at flag
      simp [Cursor.next?, flag]
  have run : read (cursor.continued last.position other) =
      (close final tokens, { last with remaining := other }) :=
    (readFrom_of_foldlM [] (way.continued other) folded).trans (readFrom_of_stops stops)
  rw [run]
  exact ⟨(close_eq_ok_iff _ _ _).mpr finished, rfl⟩

/-- **Reading a range consumes exactly one literal.** The tokens consumed are those between the two
positions of the cursor, and none of them is a flag. They are a literal of the range read. If they hold
three numbers, then not without the last of them, and the same is read in front of whatever other
tokens. Otherwise they hold two and the cursor is at its end, and the same is read in front of nothing
and in front of every flag. A refusal shows the tokens consumed. -/
theorem read_consumes (cursor : Cursor) :
    let reading := read cursor
    let start := cursor.position
    let stop := reading.2.position
    let consumed := cursor.slice start stop
    reading.2.tokens = cursor.tokens ∧ reading.2.isFlag = cursor.isFlag ∧ start ≤ stop ∧
    (∀ token ∈ consumed, cursor.isFlag token = false) ∧
    (∀ range, reading.1 = .ok range → start < stop ∧ IsLiteral consumed range ∧
      ((HoldNumbers consumed 3 ∧ (∃ fewer < 3, HoldNumbers (cursor.slice start (stop - 1)) fewer) ∧
          ∀ other, (read (cursor.continued stop other)).1 = .ok range ∧
            (read (cursor.continued stop other)).2.position = stop) ∨
        (HoldNumbers consumed 2 ∧ reading.2.atEnd = true ∧
          ∀ other : List String, (∀ token ∈ other.head?, cursor.isFlag token = true) →
            (read (cursor.continued stop other)).1 = .ok range ∧
              (read (cursor.continued stop other)).2.position = stop))) ∧
    ∀ shown fault, reading.1 = .error (.refused (.range shown fault)) → shown = consumed := by
  intro reading start stop consumed
  obtain ⟨tokens, way, accepted, refused⟩ := exists_consumes cursor
  have consumed_eq : consumed = tokens := way.slice_eq
  have stop_eq : stop = start + tokens.length := way.position_eq
  rw [consumed_eq]
  refine ⟨way.tokens_eq, way.isFlag, by omega, way.flagless, fun range read => ?_, refused⟩
  obtain ⟨final, folded, finished, ends⟩ := accepted range read
  have nonempty : tokens ≠ [] := by
    rintro rfl
    obtain rfl : Assembly.start = final := Except.ok.inj folded
    cases finished
  have positive := List.length_pos_iff.mpr nonempty
  refine ⟨by omega, isLiteral_of_foldlM folded finished, ?_⟩
  by_cases complete : final.isComplete = true
  · refine .inl ⟨?_, ?_, fun other => ?_⟩
    · exact (Assembly.isComplete_iff final).mp complete ▸ holdNumbers_of_foldlM folded
    · have shorter : cursor.slice start (stop - 1) = tokens.dropLast := by
        rw [List.dropLast_eq_take, ← way.slice_eq_take _ (Nat.sub_le _ _), stop_eq,
          Nat.add_sub_assoc positive]
      exact shorter ▸ holdNumbers_dropLast nonempty folded
    · exact read_continued other way folded finished (.inl complete)
  · refine .inr ⟨?_, ?_, fun other flag => ?_⟩
    · exact Assembly.size_of_finish finished complete ▸ holdNumbers_of_foldlM folded
    · exact (Cursor.atEnd_iff _).mpr (ends.resolve_left complete)
    · exact read_continued other way folded finished (.inr flag)

end Range

end Argline
