/-
**The grammar of range literals.**

A range literal is a list of tokens. Each token is cut at its separators, and what lies between them
is nothing or a number; the numbers and separators of all tokens one after another have to be two or
three numbers with at most one separator between neighbours.

* `Piece.Lexes`: the pieces of a token, and `Piece.ofToken_eq_ok_iff`;
* `Range.Shape`: the pieces that make up a range, and `Assembly.foldlM_push_iff`, the invariant of
  assembling them;
* `Range.IsLiteral`: the range that a list of tokens is a literal of, and
  `Range.ofTokens_eq_ok_iff`.
-/

import Argline.Proofs.Joined
import Argline.Proofs.Number.IntegerText
import Argline.Proofs.Outcome
import Argline.Proofs.Range.Separators

namespace Argline

/-! ### Pieces of a token -/

namespace Piece

/-- The pieces of a fragment: none if it is empty, and else the number it spells. -/
inductive Spells : List Char → List Piece → Prop
  | nothing : Spells [] []
  | number {characters digits : List Char} {word : Word}
      (numeral : Numeral characters digits word.value) (short : digits.length ≤ digitLimit) :
      Spells characters [.number word]

/-- The pieces of fragments, with separators between them. -/
def SpellAll (fragments : List (List Char)) (pieces : List Piece) : Prop :=
  ∃ parts, List.Forall₂ Spells fragments parts ∧ [separator].intercalate parts = pieces

/-- The pieces of a token are those of its fragments. Only the first and the last fragment may be
empty. -/
structure Lexes (token : String) (pieces : List Piece) : Prop where
  nonempty : token ≠ ""
  fragments : ∃ fragments, IsCut token.toList fragments ∧
    (∀ fragment ∈ fragments.tail.dropLast, fragment ≠ []) ∧ SpellAll fragments pieces

/-- Pieces with separators between them are the first of them and the others, each behind a separator
of its own. -/
theorem intercalate_cons (part : List Piece) (parts : List (List Piece)) :
    [separator].intercalate (part :: parts) = part ++ parts.flatMap (separator :: ·) :=
  intercalate_cons_eq [separator] part parts

theorem ofFragment_eq_ok_iff (fragment : List Char) (piece : Piece) :
    ofFragment fragment = .ok piece ↔ Spells fragment [piece] := by
  simp only [ofFragment]
  constructor
  · intro read
    split at read
    · cases read
    · cases read
    · next value parsed =>
      split at read
      · next word found =>
        cases read
        obtain ⟨digits, numeral, short⟩ := (readInteger_eq_ok_iff _ _).mp parsed
        rw [← Word.value_of_ofInt? found] at numeral
        exact .number numeral short
      · cases read
  · intro spelled
    cases spelled with
    | @number _ digits word numeral short =>
      rw [(readInteger_eq_ok_iff _ _).mpr ⟨digits, numeral, short⟩]
      simp only [Word.ofInt?_value]

/-- A fragment that is not empty spells a single number. -/
theorem Spells.singleton {fragment : List Char} {part : List Piece} (spelled : Spells fragment part)
    (nonempty : fragment ≠ []) : ∃ piece, part = [piece] ∧ ofFragment fragment = .ok piece := by
  cases spelled with
  | nothing => exact absurd rfl nonempty
  | number numeral short =>
    exact ⟨_, rfl, (ofFragment_eq_ok_iff _ _).mpr (.number numeral short)⟩

theorem spells_nil_iff (part : List Piece) : Spells [] part ↔ part = [] := by
  constructor
  · intro spelled
    cases spelled with
    | nothing => rfl
    | number numeral => exact absurd rfl numeral.ne_nil
  · rintro rfl
    exact .nothing

/-- The fragments behind the first one: none but the last may be empty. -/
theorem ofTail_eq_ok_iff (fragments : List (List Char)) (pieces : List Piece) :
    ofTail fragments = .ok pieces ↔ (∀ fragment ∈ fragments.dropLast, fragment ≠ []) ∧
      ∃ parts, List.Forall₂ Spells fragments parts ∧ parts.flatMap (separator :: ·) = pieces := by
  fun_induction ofTail fragments generalizing pieces with
  | case1 => simp [eq_comm]
  | case2 => simp [spells_nil_iff, List.forall₂_cons_left_iff, eq_comm]
  | case3 rest several =>
    cases rest with
    | nil => exact absurd rfl several
    | cons next rest => simp
  | case4 fragment rest single nonempty ih =>
    have apart : fragment ≠ [] := fun empty => nonempty empty
    have init : (∀ other ∈ (fragment :: rest).dropLast, other ≠ []) ↔
        ∀ other ∈ rest.dropLast, other ≠ [] := by
      cases rest with
      | nil => simp
      | cons next rest => simp [apart]
    rw [init]
    constructor
    · intro read
      obtain ⟨piece, first, read⟩ := bind_eq_ok_iff.mp read
      obtain ⟨more, others, read⟩ := bind_eq_ok_iff.mp read
      cases read
      obtain ⟨inside, parts, spelled, rfl⟩ := (ih _).mp others
      exact ⟨inside, [piece] :: parts,
        .cons ((ofFragment_eq_ok_iff _ _).mp first) spelled, rfl⟩
    · rintro ⟨inside, parts, spelled, rfl⟩
      obtain ⟨part, parts, first, others, rfl⟩ := List.forall₂_cons_left_iff.mp spelled
      obtain ⟨piece, rfl, read⟩ := first.singleton apart
      rw [read, (ih _).mpr ⟨inside, parts, others, rfl⟩]
      rfl

theorem ofFragments_eq_ok_iff (fragments : List (List Char)) (pieces : List Piece) :
    ofFragments fragments = .ok pieces ↔
      (∀ fragment ∈ fragments.tail.dropLast, fragment ≠ []) ∧ SpellAll fragments pieces := by
  unfold SpellAll
  fun_cases ofFragments fragments with
  | case1 => simp [eq_comm]
  | case2 rest =>
    rw [ofTail_eq_ok_iff, List.tail_cons]
    refine and_congr_right fun _ => ?_
    constructor
    · rintro ⟨parts, spelled, rfl⟩
      exact ⟨[] :: parts, .cons .nothing spelled, intercalate_cons _ _⟩
    · rintro ⟨parts, spelled, rfl⟩
      obtain ⟨part, parts, first, others, rfl⟩ := List.forall₂_cons_left_iff.mp spelled
      obtain rfl := (spells_nil_iff part).mp first
      exact ⟨parts, others, (intercalate_cons [] parts).symm⟩
  | case3 fragment rest nonempty =>
    have apart : fragment ≠ [] := fun empty => nonempty empty
    constructor
    · intro read
      obtain ⟨piece, first, read⟩ := bind_eq_ok_iff.mp read
      obtain ⟨more, others, read⟩ := bind_eq_ok_iff.mp read
      cases read
      obtain ⟨inside, parts, spelled, rfl⟩ := (ofTail_eq_ok_iff _ _).mp others
      exact ⟨inside, [piece] :: parts,
        .cons ((ofFragment_eq_ok_iff _ _).mp first) spelled, intercalate_cons _ _⟩
    · rintro ⟨inside, parts, spelled, rfl⟩
      obtain ⟨part, parts, first, others, rfl⟩ := List.forall₂_cons_left_iff.mp spelled
      obtain ⟨piece, rfl, read⟩ := first.singleton apart
      rw [read, (ofTail_eq_ok_iff rest _).mpr ⟨inside, parts, others, rfl⟩, intercalate_cons]
      rfl

/-- **A token is read as exactly the pieces that the grammar gives it.** -/
theorem ofToken_eq_ok_iff (token : String) (pieces : List Piece) :
    ofToken token = .ok pieces ↔ Lexes token pieces := by
  unfold ofToken
  by_cases empty : token = ""
  · rw [if_pos (String.toList_eq_nil_iff.mpr empty)]
    constructor
    · intro read
      cases read
    · intro lexed
      exact absurd empty lexed.nonempty
  · rw [if_neg fun none => empty (String.toList_eq_nil_iff.mp none), ofFragments_eq_ok_iff]
    constructor
    · rintro ⟨inside, spelled⟩
      exact ⟨empty, _, (isCut_iff _ _).mpr rfl, inside, spelled⟩
    · rintro ⟨_, fragments, cut, inside, spelled⟩
      rw [(isCut_iff _ _).mp cut]
      exact ⟨inside, spelled⟩

/-- A token has at least one piece. -/
theorem Lexes.ne_nil {token : String} {pieces : List Piece} (lexed : Lexes token pieces) :
    pieces ≠ [] := by
  obtain ⟨nonempty, fragments, cut, _, parts, spelled, rfl⟩ := lexed
  have apart : token.toList ≠ [] := fun none => nonempty (String.toList_eq_nil_iff.mp none)
  generalize token.toList = characters at cut apart
  cases cut with
  | last free =>
    obtain ⟨part, parts, first, others, rfl⟩ := List.forall₂_cons_left_iff.mp spelled
    obtain ⟨piece, rfl, _⟩ := first.singleton apart
    simp [intercalate_cons]
  | behind free cut =>
    obtain ⟨part, parts, first, others, rfl⟩ := List.forall₂_cons_left_iff.mp spelled
    have several : parts ≠ [] := by
      rintro rfl
      cases others
      cases cut
    obtain ⟨next, parts, rfl⟩ := List.exists_cons_of_ne_nil several
    simp [intercalate_cons]

/-! ### Tokens that are refused -/

/-- A fragment that spells an integer of `count` digits, which are too many to be read. -/
def Oversized (fragment : List Char) (count : Nat) : Prop :=
  ∃ digits value, Numeral fragment digits value ∧ digits.length = count ∧ digitLimit < count

/-- A failure that is a refusal, unless one of the fragments has too many digits. -/
def Excused (fragments : List (List Char)) (halt : Halt RangeFault) : Prop :=
  (∃ fault, halt = .refused fault) ∨
    ∃ fragment ∈ fragments, ∃ count, Oversized fragment count ∧
      halt = .broken (.integerTooLong count)

theorem Excused.mono {some all : List (List Char)} {halt : Halt RangeFault} (subset : some ⊆ all)
    (excused : Excused some halt) : Excused all halt :=
  excused.imp_right fun ⟨fragment, member, broken⟩ => ⟨fragment, subset member, broken⟩

theorem excused_of_ofFragment {fragment : List Char} {halt : Halt RangeFault}
    (fails : ofFragment fragment = .error halt) : Excused [fragment] halt := by
  simp only [ofFragment] at fails
  split at fails
  · next count long =>
    cases fails
    exact .inr ⟨fragment, List.mem_cons_self, count, (readInteger_eq_tooLong_iff _ _).mp long, rfl⟩
  · cases fails
    exact .inl ⟨_, rfl⟩
  · split at fails
    · cases fails
    · cases fails
      exact .inl ⟨_, rfl⟩

theorem excused_of_ofTail {fragments : List (List Char)} {halt : Halt RangeFault}
    (fails : ofTail fragments = .error halt) : Excused fragments halt := by
  fun_induction ofTail fragments with
  | case1 => cases fails
  | case2 => cases fails
  | case3 rest several =>
    cases fails
    exact .inl ⟨_, rfl⟩
  | case4 fragment rest single nonempty ih =>
    rcases bind_eq_error_iff.mp fails with first | ⟨piece, _, fails⟩
    · exact (excused_of_ofFragment first).mono (by simp)
    · rcases bind_eq_error_iff.mp fails with others | ⟨more, _, fails⟩
      · exact (ih others).mono (List.subset_cons_self _ _)
      · cases fails

theorem excused_of_ofFragments {fragments : List (List Char)} {halt : Halt RangeFault}
    (fails : ofFragments fragments = .error halt) : Excused fragments halt := by
  revert fails
  fun_cases ofFragments fragments with
  | case1 =>
    intro fails
    cases fails
  | case2 rest => exact fun fails => (excused_of_ofTail fails).mono (List.subset_cons_self _ _)
  | case3 fragment rest nonempty =>
    intro fails
    rcases bind_eq_error_iff.mp fails with first | ⟨piece, _, fails⟩
    · exact (excused_of_ofFragment first).mono (by simp)
    · rcases bind_eq_error_iff.mp fails with others | ⟨more, _, fails⟩
      · exact (excused_of_ofTail others).mono (List.subset_cons_self _ _)
      · cases fails

/-- A token that has no pieces is refused, unless it has too many digits somewhere. -/
theorem excused_of_ofToken {token : String} {halt : Halt RangeFault}
    (fails : ofToken token = .error halt) : Excused (cutSeparators token.toList) halt := by
  unfold ofToken at fails
  split at fails
  · cases fails
    exact .inl ⟨_, rfl⟩
  · exact excused_of_ofFragments fails

end Piece

/-! ### Assembling pieces -/

/-- What may stand between two numbers of a range: nothing, or a separator. -/
inductive IsGap : List Piece → Prop
  | nothing : IsGap []
  | separator : IsGap [.separator]

namespace Assembly

/-- The pieces that an assembly is made of. -/
inductive MadeOf : Assembly → List Piece → Prop
  | start : MadeOf .start []
  | one (first : Word) : MadeOf (.one first) [.number first]
  | oneOpen (first : Word) : MadeOf (.oneOpen first) [.number first, .separator]
  | two {gap : List Piece} (isGap : IsGap gap) (first second : Word) :
      MadeOf (.two first second) (.number first :: gap ++ [.number second])
  | twoOpen {gap : List Piece} (isGap : IsGap gap) (first second : Word) :
      MadeOf (.twoOpen first second) (.number first :: gap ++ [.number second, .separator])
  | three {gap next : List Piece} (isGap : IsGap gap) (isNext : IsGap next)
      (first second third : Word) :
      MadeOf (.three first second third)
        (.number first :: gap ++ .number second :: next ++ [.number third])

/-- One piece more. -/
theorem MadeOf.push {assembly longer : Assembly} {pieces : List Piece} {piece : Piece}
    (made : assembly.MadeOf pieces) (pushed : assembly.push piece = .ok longer) :
    longer.MadeOf (pieces ++ [piece]) := by
  cases made with
  | start =>
    cases piece <;> cases pushed
    exact .one _
  | one first =>
    cases piece <;> cases pushed
    · exact .two .nothing _ _
    · exact .oneOpen _
  | oneOpen first =>
    cases piece <;> cases pushed
    exact .two .separator _ _
  | two isGap first second =>
    cases piece <;> cases pushed
    · simpa using MadeOf.three isGap .nothing first second _
    · simpa using MadeOf.twoOpen isGap first second
  | twoOpen isGap first second =>
    cases piece <;> cases pushed
    simpa using MadeOf.three isGap .separator first second _
  | three => cases pushed

/-- **An assembly holds what the pieces so far are, and they are all that it can be made of.** -/
theorem foldlM_push_iff (pieces : List Piece) (assembly : Assembly) :
    pieces.foldlM push .start = .ok assembly ↔ assembly.MadeOf pieces := by
  constructor
  · intro folded
    induction pieces using List.reverseRecOn generalizing assembly with
    | nil =>
      cases folded
      exact .start
    | append_singleton pieces piece ih =>
      rw [List.foldlM_append] at folded
      obtain ⟨before, earlier, folded⟩ := bind_eq_ok_iff.mp folded
      rw [List.foldlM_cons] at folded
      obtain ⟨after, pushed, folded⟩ := bind_eq_ok_iff.mp folded
      cases folded
      exact (ih before earlier).push pushed
  · intro made
    cases made with
    | start => rfl
    | one first => rfl
    | oneOpen first => rfl
    | two isGap first second => cases isGap <;> rfl
    | twoOpen isGap first second => cases isGap <;> rfl
    | three isGap isNext first second third => cases isGap <;> cases isNext <;> rfl

/-- No piece can follow the third number. -/
theorem foldlM_push_of_isComplete {assembly : Assembly} (complete : assembly.isComplete = true)
    {pieces : List Piece} (nonempty : pieces ≠ []) (longer : Assembly) :
    pieces.foldlM push assembly ≠ .ok longer := by
  obtain ⟨piece, rest, rfl⟩ := List.exists_cons_of_ne_nil nonempty
  cases assembly with
  | three first second third =>
    intro folded
    cases folded
  | _ => cases complete

end Assembly

namespace Range

/-- The pieces of a range: its numbers, of which two suffice if the step is one. -/
inductive Shape : List Piece → Range → Prop
  | two {gap : List Piece} (isGap : IsGap gap) (first last : Word) :
      Shape (.number first :: gap ++ [.number last]) ⟨first, .one, last⟩
  | three {gap next : List Piece} (isGap : IsGap gap) (isNext : IsGap next)
      (first second third : Word) :
      Shape (.number first :: gap ++ .number second :: next ++ [.number third])
        ⟨first, second, third⟩

/-- The assemblies that may come to their end are those of the pieces of a range. -/
theorem shape_iff (pieces : List Piece) (range : Range) :
    Shape pieces range ↔
      ∃ assembly, pieces.foldlM Assembly.push .start = .ok assembly ∧
        assembly.finish = .ok range := by
  simp only [Assembly.foldlM_push_iff]
  constructor
  · intro shape
    cases shape with
    | two isGap first last => exact ⟨_, .two isGap first last, rfl⟩
    | three isGap isNext first second third =>
      exact ⟨_, .three isGap isNext first second third, rfl⟩
  · rintro ⟨assembly, made, finished⟩
    cases made with
    | two isGap first second =>
      cases finished
      exact .two isGap first second
    | three isGap isNext first second third =>
      cases finished
      exact .three isGap isNext first second third
    | _ => cases finished

/-- The range that a list of tokens is a literal of. -/
def IsLiteral (tokens : List String) (range : Range) : Prop :=
  ∃ pieces, List.Forall₂ Piece.Lexes tokens pieces ∧ Shape pieces.flatten range

/-! ### Reading tokens -/

theorem close_eq_ok_iff (assembly : Assembly) (consumed : List String) (range : Range) :
    close assembly consumed = .ok range ↔ assembly.finish = .ok range := by
  unfold close
  cases assembly.finish with
  | ok found => simp
  | error fault => simp

theorem pushToken_eq_ok_iff (assembly longer : Assembly) (token : String) :
    assembly.pushToken token = .ok longer ↔
      ∃ pieces, Piece.Lexes token pieces ∧ pieces.foldlM Assembly.push assembly = .ok longer := by
  simp only [← Piece.ofToken_eq_ok_iff, Assembly.pushToken]
  cases Piece.ofToken token with
  | error halt => simp
  | ok pieces =>
    cases folded : pieces.foldlM Assembly.push assembly with
    | error fault => simp [folded]
    | ok next => simp [folded]

/-- Tokens are pushed one by one, or all their pieces are. -/
theorem foldlM_pushToken_eq_ok_iff (tokens : List String) (assembly final : Assembly) :
    tokens.foldlM Assembly.pushToken assembly = .ok final ↔
      ∃ pieces, List.Forall₂ Piece.Lexes tokens pieces ∧
        pieces.flatten.foldlM Assembly.push assembly = .ok final := by
  induction tokens generalizing assembly with
  | nil => simp [pure_eq_ok_iff]
  | cons token rest ih =>
    simp only [List.foldlM_cons, bind_eq_ok_iff, pushToken_eq_ok_iff, ih,
      List.forall₂_cons_left_iff]
    constructor
    · rintro ⟨longer, ⟨first, lexed, front⟩, others, lexedOthers, folded⟩
      refine ⟨first :: others, ⟨first, others, lexed, lexedOthers, rfl⟩, ?_⟩
      rw [List.flatten_cons, List.foldlM_append, front]
      exact folded
    · rintro ⟨_, ⟨first, others, lexed, lexedOthers, rfl⟩, folded⟩
      rw [List.flatten_cons, List.foldlM_append] at folded
      obtain ⟨longer, front, folded⟩ := bind_eq_ok_iff.mp folded
      exact ⟨longer, ⟨first, lexed, front⟩, others, lexedOthers, folded⟩

/-- No token can follow the third number. -/
theorem pushToken_of_isComplete {assembly : Assembly} (complete : assembly.isComplete = true)
    (token : String) (longer : Assembly) : assembly.pushToken token ≠ .ok longer := by
  intro pushed
  obtain ⟨pieces, lexed, folded⟩ := (pushToken_eq_ok_iff _ _ _).mp pushed
  exact Assembly.foldlM_push_of_isComplete complete lexed.ne_nil longer folded

/-- A literal ends where the cursor does. -/
theorem readFrom_of_atEnd {assembly : Assembly} {consumed : List String} {cursor : Cursor}
    (atEnd : cursor.next? = none) :
    readFrom assembly consumed cursor = (close assembly consumed, cursor) := by
  rw [readFrom]
  split
  · rfl
  · split
    · rfl
    · next moved => rw [atEnd] at moved; cases moved

/-- A literal that is not complete goes on with the next token. -/
theorem readFrom_of_next? {assembly : Assembly} {consumed : List String} {cursor next : Cursor}
    {token : String} (incomplete : ¬ assembly.isComplete = true)
    (moved : cursor.next? = some (token, next)) :
    readFrom assembly consumed cursor =
      match assembly.pushToken token with
      | .error (.refused fault) => (.error (.refused (.range (consumed ++ [token]) fault)), next)
      | .error (.broken breakage) => (.error (.broken breakage), next)
      | .ok longer => readFrom longer (consumed ++ [token]) next := by
  rw [readFrom, if_neg incomplete]
  split
  · next atEnd => rw [atEnd] at moved; cases moved
  · next other last found =>
    rw [found] at moved
    cases moved
    rfl

/-- **Reading on uses up all tokens exactly if they complete the assembly.** -/
theorem readFrom_eq_ok_iff (tokens taken consumed : List String) (assembly : Assembly)
    (range : Range) :
    (readFrom assembly consumed ⟨taken, tokens, fun _ => false⟩).1 = .ok range ∧
        (readFrom assembly consumed ⟨taken, tokens, fun _ => false⟩).2.remaining = [] ↔
      ∃ final, tokens.foldlM Assembly.pushToken assembly = .ok final ∧
        final.finish = .ok range := by
  induction tokens generalizing taken consumed assembly with
  | nil =>
    rw [readFrom_of_atEnd rfl]
    simp [close_eq_ok_iff, pure_eq_ok_iff]
  | cons token rest ih =>
    simp only [List.foldlM_cons, bind_eq_ok_iff]
    by_cases complete : assembly.isComplete = true
    · rw [readFrom, if_pos complete]
      refine iff_of_false (fun done => List.cons_ne_nil _ _ done.2) ?_
      rintro ⟨final, ⟨longer, pushed, _⟩, _⟩
      exact pushToken_of_isComplete complete token longer pushed
    · rw [readFrom_of_next? complete rfl]
      cases assembly.pushToken token with
      | error halt => cases halt <;> simp
      | ok longer => simpa using ih (token :: taken) (consumed ++ [token]) longer

/-- **A list of tokens is read as a range exactly if it is a literal of it.** -/
theorem ofTokens_eq_ok_iff (tokens : List String) (range : Range) :
    ofTokens tokens = .ok range ↔ IsLiteral tokens range := by
  have all := readFrom_eq_ok_iff tokens [] [] .start range
  simp only [foldlM_pushToken_eq_ok_iff] at all
  have complete : IsLiteral tokens range ↔ ∃ final, (∃ pieces,
      List.Forall₂ Piece.Lexes tokens pieces ∧
        pieces.flatten.foldlM Assembly.push .start = .ok final) ∧ final.finish = .ok range := by
    simp only [IsLiteral, shape_iff]
    constructor
    · rintro ⟨pieces, lexed, final, folded, finished⟩
      exact ⟨final, ⟨pieces, lexed, folded⟩, finished⟩
    · rintro ⟨final, ⟨pieces, lexed, folded⟩, finished⟩
      exact ⟨pieces, lexed, final, folded, finished⟩
  rw [complete, ← all, ofTokens, read, Cursor.ofTokens]
  split
  · next halt last equal => simp [equal]
  · next found last equal =>
    rw [equal]
    cases rest : last.remaining with
    | nil => simp
    | cons token more => simp

end Range

end Argline
