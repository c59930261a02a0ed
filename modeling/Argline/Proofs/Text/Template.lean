/-
**Templates that have a text.**

* `Text.Fills`: a template stands for a text wherever it occurs, whatever comes behind it;
* `Text.Fills.append`: templates that are put together;
* `Text.fills_of_notMem`, `Text.fills_doublePercents`, `Text.fills_directive`: the templates that have
  no percent sign, that double them, and that name a value;
* `Text.fill_asTemplate`: a text is the text of the template made for it.
-/

import Argline.Text.Template
import Argline.Proofs.Outcome

namespace Argline.Text

variable {values : List (String × String)}

/-- A template stands for a text: behind it a template is read as if it began there. -/
def Fills (values : List (String × String)) (template content : List Char) : Prop :=
  ∀ index rest, fillFrom values index .plain (template ++ rest) =
    (fillFrom values (index + template.length) .plain rest).map (content ++ ·)

/-! ### The reader, character by character -/

section Reader

variable {index : Nat} {c : Char} {phase next : Phase} {rest : List Char}

/-- A character that writes something. -/
theorem fillFrom_of_step {written : List Char}
    (stepped : step values index c phase = .ok (written, next)) :
    fillFrom values index phase (c :: rest) =
      (fillFrom values (index + 1) next rest).map (written ++ ·) := by
  have unfolded : fillFrom values index phase (c :: rest) =
      step values index c phase >>= fun outcome =>
        fillFrom values (index + 1) outcome.2 rest >>= fun more => pure (outcome.1 ++ more) := by
    cases phase <;> rfl
  rw [unfolded, stepped]
  show (fillFrom values (index + 1) next rest >>= fun more => pure (written ++ more)) = _
  cases fillFrom values (index + 1) next rest <;> rfl

/-- A character that writes nothing. -/
theorem fillFrom_of_silent (stepped : step values index c phase = .ok ([], next)) :
    fillFrom values index phase (c :: rest) = fillFrom values (index + 1) next rest := by
  rw [fillFrom_of_step stepped]
  cases fillFrom values (index + 1) next rest <;> rfl

/-- The characters of a name are read up to the parenthesis that closes it. -/
theorem fillFrom_name {name : List Char} (flat : ∀ c ∈ name, c ≠ '(' ∧ c ≠ ')') (index : Nat)
    (read : List Char) :
    fillFrom values index (.name 0 read) (name ++ rest) =
      fillFrom values (index + name.length) (.name 0 (name.reverse ++ read)) rest := by
  induction name generalizing index read with
  | nil => rfl
  | cons c more ih =>
    obtain ⟨opens, closes⟩ := flat c List.mem_cons_self
    have stepped : step values index c (.name 0 read) = .ok ([], .name 0 (c :: read)) := by
      rw [step, if_neg opens, if_neg closes]
    rw [List.cons_append, fillFrom_of_silent stepped,
      ih fun other member => flat other (List.mem_cons_of_mem _ member)]
    simp [Nat.add_assoc, Nat.add_comm 1]

end Reader

/-! ### Templates -/

theorem Fills.nil : Fills values [] [] := by
  intro index rest
  show fillFrom values index .plain rest = (fillFrom values index .plain rest).map ([] ++ ·)
  cases fillFrom values index .plain rest <;> rfl

/-- Templates one behind the other stand for their texts. -/
theorem Fills.append {first second content more : List Char} (one : Fills values first content)
    (other : Fills values second more) : Fills values (first ++ second) (content ++ more) := by
  intro index rest
  rw [List.append_assoc, one, other, List.length_append, Nat.add_assoc]
  cases fillFrom values (index + (first.length + second.length)) .plain rest with
  | error fault => rfl
  | ok behind => exact congrArg Except.ok (List.append_assoc _ _ _).symm

/-- A character that is no percent sign stands for itself. -/
theorem fills_singleton {c : Char} (plain : c ≠ '%') : Fills values [c] [c] := by
  intro index rest
  exact fillFrom_of_step (by rw [step, if_neg plain])

/-- A template without a percent sign stands for itself. -/
theorem fills_of_notMem {template : List Char} (plain : '%' ∉ template) :
    Fills values template template := by
  induction template with
  | nil => exact .nil
  | cons c rest ih =>
    rw [List.mem_cons, not_or] at plain
    exact (fills_singleton (Ne.symm plain.1)).append (ih plain.2)

/-- Two percent signs stand for one. -/
theorem fills_percents : Fills values ['%', '%'] ['%'] := by
  intro index rest
  have opened : step values index '%' .plain = .ok ([], .opened) := rfl
  have closed : step values (index + 1) '%' .opened = .ok (['%'], .plain) := rfl
  rw [List.cons_append, fillFrom_of_silent opened, List.cons_append, fillFrom_of_step closed]
  rfl

theorem doublePercents_append (front back : List Char) :
    doublePercents (front ++ back) = doublePercents front ++ doublePercents back :=
  List.flatMap_append

/-- A text whose percent signs are doubled stands for it. -/
theorem fills_doublePercents (text : List Char) : Fills values (doublePercents text) text := by
  induction text with
  | nil => exact .nil
  | cons c rest ih =>
    rw [doublePercents, List.flatMap_cons]
    split
    · next percent =>
      rw [percent]
      exact fills_percents.append ih
    · next plain => exact (fills_singleton plain).append ih

/-- A directive writes its value as a text. -/
theorem takes_string (index : Nat) (value : List Char) :
    step values index 's' (.directive .marks { value := some value }) = .ok (value, .plain) := by
  have converted : ({ value := some value } : Form).convert value index 's' = .ok value := by
    simp [Form.convert, Form.cut, Form.pad, roomBound]
  simp [step, Form.take, Form.takePoint, Form.takeSize, Form.takeConversion, converted, Except.map]

/-- A directive that names a value stands for it. -/
theorem fills_directive {name value : String} (found : values.lookup name = some value)
    (flat : ∀ c ∈ name.toList, c ≠ '(' ∧ c ≠ ')') :
    Fills values ("%(" ++ name ++ ")s").toList value.toList := by
  intro index rest
  have shape : ("%(" ++ name ++ ")s").toList ++ rest =
      '%' :: '(' :: (name.toList ++ ')' :: 's' :: rest) := by
    simp
  have opened : step values index '%' .plain = .ok ([], .opened) := rfl
  have named : step values (index + 1) '(' .opened = .ok ([], .name 0 []) := rfl
  rw [shape, fillFrom_of_silent opened, fillFrom_of_silent named, fillFrom_name flat]
  have closed : step values (index + 1 + 1 + name.toList.length) ')'
      (.name 0 (name.toList.reverse ++ [])) =
        .ok ([], .directive .marks { value := some value.toList }) := by
    simp [step, found]
  have behind : index + 1 + 1 + name.toList.length + 1 + 1 =
      index + ("%(" ++ name ++ ")s").toList.length := by
    simp
    omega
  rw [fillFrom_of_silent closed, fillFrom_of_step (takes_string _ _), behind]

/-- **A template that stands for a text has it as its text.** -/
theorem Fills.fill {template content : String} (fills : Fills values template.toList content.toList) :
    fill values template = .ok content := by
  have whole := fills 0 []
  rw [List.append_nil] at whole
  rw [Text.fill, whole]
  simp [fillFrom, Except.map]

/-- **A text is the text of the template made for it.** -/
theorem fill_asTemplate (text : String) : fill values (asTemplate text) = .ok text := by
  refine Fills.fill ?_
  rw [asTemplate, String.toList_ofList]
  exact fills_doublePercents text.toList

end Argline.Text
