/-
**Percent signs in templates.**

A reader writes a percent sign only where it reads the second of two, as long as no value has one.

* `Text.notMem_quoteChars`, `Text.notMem_quoteAscii`: quoting brings no percent sign in;
* `Text.Phase.IsPlain`: the value that a directive is about to write has no percent sign;
* `Text.plain_of_step`, `Text.count_le_of_fillFrom`: the percent signs that are written are no more than
  those that are read, in one step and in a run;
* `Text.fillFrom_eq_self_iff`: the templates that stand for themselves are those without percent signs.
-/

import Argline.Proofs.Bindings
import Argline.Proofs.Text.Template

namespace Argline.Text

/-- A text without a percent sign is its own template. -/
theorem asTemplate_of_notMem {text : String} (plain : '%' ∉ text.toList) : asTemplate text = text := by
  have same (characters : List Char) (plain : '%' ∉ characters) :
      doublePercents characters = characters := by
    induction characters with
    | nil => rfl
    | cons c rest ih =>
      rw [List.mem_cons, not_or] at plain
      rw [doublePercents, List.flatMap_cons, if_neg (Ne.symm plain.1), ← doublePercents, ih plain.2]
      rfl
  rw [asTemplate, same _ plain, String.ofList_toList]

/-! ### Quoted texts -/

/-- The digits of a number are those below the base. -/
theorem exists_digit_of_mem_toDigits {base number : Nat} (large : 1 < base) {c : Char}
    (member : c ∈ Nat.toDigits base number) : ∃ digit < base, c = Nat.digitChar digit := by
  induction number using Nat.strongRecOn with
  | ind number ih =>
    by_cases small : number < base
    · rw [Nat.toDigits_of_lt_base small, List.mem_singleton] at member
      exact ⟨number, small, member⟩
    · have positive : 0 < number := by omega
      rw [Nat.toDigits_of_base_le large (Nat.not_lt.mp small), List.mem_append,
        List.mem_singleton] at member
      rcases member with front | last
      · exact ih _ (Nat.div_lt_self positive large) front
      · exact ⟨number % base, Nat.mod_lt _ (by omega), last⟩

theorem notMem_numericEscape (code : Nat) : '%' ∉ numericEscape code := by
  have digits (width : Nat) : '%' ∉ hexDigits width code := by
    rw [hexDigits, List.mem_append, not_or]
    refine ⟨fun padding => absurd (List.eq_of_mem_replicate padding) (by decide), fun inside => ?_⟩
    obtain ⟨digit, below, equal⟩ := exists_digit_of_mem_toDigits (by decide) inside
    have table : ∀ digit < 16, '%' ≠ Nat.digitChar digit := by decide
    exact table digit below equal
  unfold numericEscape
  split
  · simpa using digits 2
  · split
    · simpa using digits 4
    · simpa using digits 8

theorem escapeLetter?_ne_percent {c letter : Char} (found : escapeLetter? c = some letter) :
    '%' ≠ letter := by
  unfold escapeLetter? at found
  split at found <;> cases found <;> decide

theorem notMem_escape {mark c : Char} (plain : '%' ≠ c) : '%' ∉ escape mark c := by
  unfold escape
  split
  · simpa using plain
  · split
    · next letter found => simpa using escapeLetter?_ne_percent found
    · split
      · simpa using plain
      · exact notMem_numericEscape _

theorem quoteMark_ne_percent (characters : List Char) : '%' ≠ quoteMark characters := by
  unfold quoteMark
  split <;> decide

/-- Quoting a text brings no percent sign in. -/
theorem notMem_quoteChars {characters : List Char} (plain : '%' ∉ characters) :
    '%' ∉ quoteChars characters := by
  have inner : '%' ∉ characters.flatMap (escape (quoteMark characters)) := by
    rw [List.mem_flatMap]
    rintro ⟨c, member, inside⟩
    exact notMem_escape (fun equal => plain (equal ▸ member)) inside
  simpa [quoteChars, quoteMark_ne_percent] using inner

theorem notMem_quoteAscii {characters : List Char} (plain : '%' ∉ characters) :
    '%' ∉ quoteAscii characters := by
  rw [quoteAscii, List.mem_flatMap]
  rintro ⟨c, member, inside⟩
  split at inside
  · exact notMem_quoteChars plain (List.mem_singleton.mp inside ▸ member)
  · exact notMem_numericEscape _ inside

/-! ### One directive -/

/-- The value of a form has no percent sign. -/
def Form.IsPlain (form : Form) : Prop := ∀ value, form.value = some value → '%' ∉ value

/-- The value that a directive is about to write has no percent sign. -/
def Phase.IsPlain : Phase → Prop
  | .directive _ form => form.IsPlain
  | _ => True

/-- A character writes no percent sign, and neither has the value one that is about to be written. -/
def StaysPlain (advance : Advance) : Prop :=
  ∀ written next, advance = .ok (written, next) → '%' ∉ written ∧ next.IsPlain

theorem staysPlain_error (fault : TemplateFault) : StaysPlain (.error fault) := by
  rintro _ _ ⟨⟩

theorem staysPlain_silent {next : Phase} (plain : next.IsPlain) : StaysPlain (.ok ([], next)) := by
  rintro _ _ ⟨⟩
  exact ⟨List.not_mem_nil, plain⟩

namespace Form

variable {form : Form} {index : Nat} {c : Char}

theorem notMem_of_pad {text padded : List Char} (plain : '%' ∉ text)
    (filled : form.pad text = .ok padded) : '%' ∉ padded := by
  unfold pad at filled
  split at filled
  · cases filled
  · cases filled
    split <;> simp [plain]

theorem notMem_cut {text : List Char} (plain : '%' ∉ text) : '%' ∉ form.cut text := by
  unfold cut
  split
  · exact fun inside => plain (List.mem_of_mem_take inside)
  · exact plain

theorem notMem_of_convert {value text : List Char} (plain : '%' ∉ value)
    (converted : form.convert value index c = .ok text) : '%' ∉ text := by
  unfold convert at converted
  split_ifs at converted
  · exact notMem_of_pad (notMem_cut plain) converted
  · exact notMem_of_pad (notMem_cut (notMem_quoteChars plain)) converted
  · exact notMem_of_pad (notMem_cut (notMem_quoteAscii plain)) converted
  · exact notMem_of_pad plain converted

theorem staysPlain_takeConversion (plain : form.IsPlain) : StaysPlain (form.takeConversion index c) := by
  intro written next taken
  unfold takeConversion at taken
  split at taken
  · cases taken
  · next value held =>
    obtain ⟨text, converted, equal⟩ := map_eq_ok_iff.mp taken
    cases equal
    exact ⟨notMem_of_convert (plain value held) converted, trivial⟩

theorem staysPlain_takeSize (plain : form.IsPlain) : StaysPlain (form.takeSize index c) := by
  unfold takeSize
  split_ifs
  · exact staysPlain_silent plain
  · exact staysPlain_takeConversion plain

theorem staysPlain_takePoint (plain : form.IsPlain) : StaysPlain (form.takePoint index c) := by
  unfold takePoint
  split_ifs
  · exact staysPlain_silent plain
  · exact staysPlain_takeSize plain

theorem staysPlain_takeWidth (plain : form.IsPlain) : StaysPlain (form.takeWidth c) := by
  simp only [takeWidth]
  split_ifs
  · exact staysPlain_error _
  · exact staysPlain_silent plain

theorem staysPlain_takeLimit (plain : form.IsPlain) : StaysPlain (form.takeLimit c) := by
  simp only [takeLimit]
  split_ifs
  · exact staysPlain_error _
  · exact staysPlain_silent plain

/-- A character of a directive writes no percent sign. -/
theorem staysPlain_take (plain : form.IsPlain) (stage : Stage) : StaysPlain (form.take index c stage) := by
  cases stage with
  | marks =>
    rw [take]
    split_ifs
    · exact staysPlain_silent plain
    · exact staysPlain_silent plain
    · exact staysPlain_error _
    · exact staysPlain_takeWidth plain
    · exact staysPlain_takePoint plain
  | width =>
    rw [take]
    split_ifs
    · exact staysPlain_takeWidth plain
    · exact staysPlain_takePoint plain
  | limitStart =>
    rw [take]
    split_ifs
    · exact staysPlain_error _
    · exact staysPlain_takeLimit plain
    · exact staysPlain_takeSize plain
  | limit =>
    rw [take]
    split_ifs
    · exact staysPlain_takeLimit plain
    · exact staysPlain_takeSize plain
  | conversion => exact staysPlain_takeConversion plain

end Form

/-! ### One step, and a run -/

variable {values : List (String × String)}

/-- A character of a name writes nothing; the last one finds the value. -/
theorem staysPlain_name (plain : ∀ entry ∈ values, '%' ∉ entry.2.toList) (index : Nat) (c : Char)
    (depth : Nat) (read : List Char) : StaysPlain (step values index c (.name depth read)) := by
  simp only [step]
  split
  · exact staysPlain_silent trivial
  split
  · split
    · exact staysPlain_silent trivial
    split
    · next value found =>
      refine staysPlain_silent ?_
      rintro _ ⟨⟩
      exact plain _ (mem_of_lookup_eq_some found)
    · exact staysPlain_error _
  · exact staysPlain_silent trivial

/-- **A step writes no more percent signs than it reads.** -/
theorem plain_of_step (plain : ∀ entry ∈ values, '%' ∉ entry.2.toList) {index : Nat} {c : Char}
    {phase next : Phase} (ready : phase.IsPlain) {written : List Char}
    (stepped : step values index c phase = .ok (written, next)) :
    written.count '%' ≤ [c].count '%' ∧ next.IsPlain := by
  have none (stays : StaysPlain (step values index c phase)) :
      written.count '%' ≤ [c].count '%' ∧ next.IsPlain := by
    obtain ⟨absent, later⟩ := stays written next stepped
    rw [List.count_eq_zero_of_not_mem absent]
    exact ⟨Nat.zero_le _, later⟩
  cases phase with
  | plain =>
    rw [step] at stepped
    split at stepped <;> cases stepped
    · exact ⟨Nat.zero_le _, trivial⟩
    · exact ⟨Nat.le_refl _, trivial⟩
  | opened =>
    by_cases percent : c = '%'
    · rw [step, if_pos percent] at stepped
      cases stepped
      rw [percent]
      exact ⟨Nat.le_refl _, trivial⟩
    · refine none ?_
      rw [step, if_neg percent]
      split_ifs
      · exact staysPlain_silent trivial
      · exact Form.staysPlain_take (by rintro _ ⟨⟩) .marks
  | name depth read => exact none (staysPlain_name plain index c depth read)
  | directive stage form => exact none (Form.staysPlain_take ready stage)

/-- What a run writes is written by its first step and by the rest of it. -/
theorem exists_of_fillFrom_cons {template content : List Char} {index : Nat} {c : Char}
    {phase : Phase} (filled : fillFrom values index phase (c :: template) = .ok content) :
    ∃ written next more, step values index c phase = .ok (written, next) ∧
      fillFrom values (index + 1) next template = .ok more ∧ content = written ++ more := by
  have unfolded : fillFrom values index phase (c :: template) =
      step values index c phase >>= fun outcome =>
        fillFrom values (index + 1) outcome.2 template >>= fun more => pure (outcome.1 ++ more) := by
    cases phase <;> rfl
  rw [unfolded] at filled
  obtain ⟨⟨written, next⟩, stepped, rest⟩ := bind_eq_ok_iff.mp filled
  obtain ⟨more, behind, made⟩ := bind_eq_ok_iff.mp rest
  exact ⟨written, next, more, stepped, behind, (Except.ok.inj made).symm⟩

/-- **A run writes no more percent signs than it reads.** -/
theorem count_le_of_fillFrom (plain : ∀ entry ∈ values, '%' ∉ entry.2.toList)
    {template content : List Char} {index : Nat} {phase : Phase} (ready : phase.IsPlain)
    (filled : fillFrom values index phase template = .ok content) :
    content.count '%' ≤ template.count '%' := by
  induction template generalizing content index phase with
  | nil =>
    cases phase with
    | plain =>
      cases filled
      exact Nat.le_refl _
    | _ => cases filled
  | cons c rest ih =>
    obtain ⟨written, next, more, stepped, behind, rfl⟩ := exists_of_fillFrom_cons filled
    obtain ⟨here, later⟩ := plain_of_step plain ready stepped
    calc (written ++ more).count '%'
        = written.count '%' + more.count '%' := List.count_append
      _ ≤ [c].count '%' + rest.count '%' := Nat.add_le_add here (ih later behind)
      _ = (c :: rest).count '%' := by rw [← List.count_append, List.singleton_append]

/-- A template without a percent sign stands for itself, whatever the values are. -/
theorem fillFrom_eq_self {index : Nat} {template : List Char} (absent : '%' ∉ template) :
    fillFrom values index .plain template = .ok template := by
  have whole : fillFrom values index .plain (template ++ []) =
      (fillFrom values (index + template.length) .plain []).map (template ++ ·) :=
    fills_of_notMem absent index []
  simpa [fillFrom, Except.map] using whole

/-- **A template stands for itself exactly if it has no percent sign.** -/
theorem fillFrom_eq_self_iff (plain : ∀ entry ∈ values, '%' ∉ entry.2.toList) (index : Nat)
    (template : List Char) :
    fillFrom values index .plain template = .ok template ↔ '%' ∉ template := by
  constructor
  · induction template generalizing index with
    | nil => exact fun _ => List.not_mem_nil
    | cons c rest ih =>
      intro filled
      obtain ⟨written, next, more, stepped, behind, equal⟩ := exists_of_fillFrom_cons filled
      rw [step] at stepped
      split at stepped
      · next percent =>
        -- The first percent sign writes nothing, and no later one writes more than itself.
        cases stepped
        have opened : Phase.IsPlain .opened := trivial
        have fewer := count_le_of_fillFrom plain opened behind
        rw [← List.nil_append more, ← equal, percent, List.count_cons_self] at fewer
        exact absurd fewer (Nat.not_succ_le_self _)
      · next other =>
        cases stepped
        obtain rfl := (List.cons.inj equal).2
        rw [List.mem_cons, not_or]
        exact ⟨Ne.symm other, ih (index + 1) behind⟩
  · exact fillFrom_eq_self

end Argline.Text
