/-
**Stages that succeed.**

A stage made of several succeeds exactly if each of them does, on the result of the ones before.

* `bind_eq_ok_iff`, `map_eq_ok_iff`: one stage behind another, with the same for failures;
* `mapM_eq_ok_iff`, `exists_mem_of_mapM_eq_error`, `foldlM_eq_error_iff`: one stage for each item of a
  list;
* `exists_forall₂`, `forall_mem_of_forall₂`, `exists_mem_of_forall₂`, `forall₂_append_left_iff`: lists
  side by side, and what this says of one of them.
-/

import Mathlib.Data.List.Forall2

namespace Argline

variable {ε α β : Type}

theorem bind_eq_ok_iff {stage : Except ε α} {next : α → Except ε β} {result : β} :
    stage >>= next = .ok result ↔ ∃ value, stage = .ok value ∧ next value = .ok result := by
  cases stage with
  | error cause => simp [bind, Except.bind]
  | ok value => simp [bind, Except.bind]

theorem bind_eq_error_iff {stage : Except ε α} {next : α → Except ε β} {cause : ε} :
    stage >>= next = .error cause ↔
      stage = .error cause ∨ ∃ value, stage = .ok value ∧ next value = .error cause := by
  cases stage with
  | error other => simp [bind, Except.bind]
  | ok value => simp [bind, Except.bind]

theorem pure_eq_ok_iff {value result : α} :
    (pure value : Except ε α) = .ok result ↔ value = result :=
  Except.ok.injEq value result ▸ Iff.rfl

theorem map_eq_ok_iff {stage : Except ε α} {f : α → β} {result : β} :
    stage.map f = .ok result ↔ ∃ value, stage = .ok value ∧ f value = result := by
  cases stage with
  | error cause => simp [Except.map]
  | ok value => simp [Except.map]

theorem map_eq_error_iff {stage : Except ε α} {f : α → β} {cause : ε} :
    stage.map f = .error cause ↔ stage = .error cause := by
  cases stage <;> simp [Except.map]

theorem mapM_eq_ok_iff {f : α → Except ε β} {items : List α} {results : List β} :
    items.mapM f = .ok results ↔ List.Forall₂ (fun item result => f item = .ok result)
      items results := by
  induction items generalizing results with
  | nil => simp [pure, Except.pure, eq_comm]
  | cons item items ih =>
    simp only [List.mapM_cons, bind_eq_ok_iff, pure_eq_ok_iff, ih, List.forall₂_cons_left_iff]
    constructor
    · rintro ⟨result, first, results, others, rfl⟩
      exact ⟨result, results, first, others, rfl⟩
    · rintro ⟨result, results, first, others, rfl⟩
      exact ⟨result, first, results, others, rfl⟩

/-- Stages for all items fail at one of them. -/
theorem exists_mem_of_mapM_eq_error {f : α → Except ε β} {items : List α} {cause : ε}
    (failed : items.mapM f = .error cause) : ∃ item ∈ items, f item = .error cause := by
  induction items with
  | nil => cases failed
  | cons item rest ih =>
    rw [List.mapM_cons, bind_eq_error_iff] at failed
    rcases failed with first | ⟨result, _, later⟩
    · exact ⟨item, List.mem_cons_self, first⟩
    · rw [bind_eq_error_iff] at later
      rcases later with others | ⟨results, _, last⟩
      · obtain ⟨other, member, fails⟩ := ih others
        exact ⟨other, List.mem_cons_of_mem _ member, fails⟩
      · cases last

/-- Stages for one item after another fail at one of them, behind others that succeed. -/
theorem foldlM_eq_error_iff {f : β → α → Except ε β} {items : List α} {state : β} {cause : ε} :
    items.foldlM f state = .error cause ↔
      ∃ front item back middle, items = front ++ item :: back ∧
        front.foldlM f state = .ok middle ∧ f middle item = .error cause := by
  constructor
  · intro failed
    induction items generalizing state with
    | nil => cases failed
    | cons item rest ih =>
      rw [List.foldlM_cons, bind_eq_error_iff] at failed
      rcases failed with first | ⟨next, first, later⟩
      · exact ⟨[], item, rest, state, rfl, rfl, first⟩
      · obtain ⟨front, other, back, middle, rfl, before, last⟩ := ih later
        refine ⟨item :: front, other, back, middle, rfl, ?_, last⟩
        rw [List.foldlM_cons, bind_eq_ok_iff]
        exact ⟨next, first, before⟩
  · rintro ⟨front, item, back, middle, rfl, before, last⟩
    rw [List.foldlM_append, bind_eq_error_iff]
    refine .inr ⟨middle, before, ?_⟩
    rw [List.foldlM_cons, bind_eq_error_iff]
    exact .inl last

theorem exists_forall₂ {R : α → β → Prop} {first : List α}
    (each : ∀ left ∈ first, ∃ right, R left right) : ∃ second, List.Forall₂ R first second := by
  induction first with
  | nil => exact ⟨[], .nil⟩
  | cons left first ih =>
    obtain ⟨right, related⟩ := each left List.mem_cons_self
    obtain ⟨second, others⟩ := ih fun other member => each other (List.mem_cons_of_mem _ member)
    exact ⟨right :: second, .cons related others⟩

theorem forall_mem_of_forall₂ {R : α → β → Prop} {P : α → Prop} {first : List α} {second : List β}
    (related : List.Forall₂ R first second) (holds : ∀ left right, R left right → P left) :
    ∀ left ∈ first, P left :=
  ((List.forall₂_and_left _ _).mp
    (related.imp fun left right pair => ⟨holds left right pair, pair⟩)).1

theorem exists_mem_of_forall₂ {R : α → β → Prop} {first : List α} {second : List β}
    (related : List.Forall₂ R first second) {left : α} (member : left ∈ first) :
    ∃ right ∈ second, R left right := by
  have paired := (List.forall₂_and_left _ _).mpr ⟨fun _ member => member, related.flip⟩
  have each : ∀ left ∈ first, ∃ right ∈ second, R left right :=
    forall_mem_of_forall₂ paired.flip fun _ right related => ⟨right, related⟩
  exact each left member

theorem forall₂_append_left_iff {R : α → β → Prop} {first second : List α} {all : List β} :
    List.Forall₂ R (first ++ second) all ↔
      ∃ front back, List.Forall₂ R first front ∧ List.Forall₂ R second back ∧
        all = front ++ back := by
  induction first generalizing all with
  | nil => simp
  | cons item first ih =>
    simp only [List.cons_append, List.forall₂_cons_left_iff, ih]
    constructor
    · rintro ⟨result, _, related, ⟨front, back, before, behind, rfl⟩, rfl⟩
      exact ⟨_, back, ⟨result, front, related, before, rfl⟩, behind, rfl⟩
    · rintro ⟨_, back, ⟨result, front, related, before, rfl⟩, behind, rfl⟩
      exact ⟨result, _, related, ⟨front, back, before, behind, rfl⟩, rfl⟩

end Argline
