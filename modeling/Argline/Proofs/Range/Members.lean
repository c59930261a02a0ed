/-
**The members of a range.**

A progression has as many numbers as its distance to the bound holds steps, rounded up; the bound of a
range lies one past its end. What the rounding comes to is said once, for a single index
(`Progression.lt_size_iff`): an index is counted exactly if its number lies in front of the bound. In
terms of a range this is that the number has not passed the end (`Range.lt_size_iff`), and everything
else about the members follows from it.

* `Range.Reaches`, `Range.Precedes`: a number that is not past the end, and two numbers in the order in
  which they come, both in the direction of the step;
* `Range.count`: how many members there are, by a division that is rounded down;
* `Range.members_progress`: the members are those numbers of the arithmetic progression that are not
  past the end, one after another.
-/

import Argline.Range.Basic

namespace Argline

namespace Progression

/-- A number lies in front of the bound, in the direction of the step. -/
def IsInFront (progression : Progression) (number : Int) : Prop :=
  if 0 < progression.step then number < progression.bound else progression.bound < number

/-- **An index is counted exactly if its number lies in front of the bound.** -/
theorem lt_size_iff {progression : Progression} (moving : progression.step ≠ 0) (index : Nat) :
    index < progression.size ↔ progression.IsInFront (progression.item index) := by
  obtain ⟨first, step, bound⟩ := progression
  unfold size IsInFront item
  dsimp only at moving ⊢
  by_cases ascending : 0 < step
  · have fits : index < ((bound - first + step - 1) / step).toNat ↔
        ((index : Int) + 1) * step ≤ bound - first + step - 1 := by
      rw [← Int.le_ediv_iff_mul_le ascending]
      omega
    rw [if_pos ascending, if_pos ascending, fits, Int.add_mul]
    omega
  · have descending : step < 0 := by omega
    have backwards : 0 < -step := by omega
    have fits : index < ((-(bound - first) + -step - 1) / -step).toNat ↔
        ((index : Int) + 1) * -step ≤ -(bound - first) + -step - 1 := by
      rw [← Int.le_ediv_iff_mul_le backwards]
      omega
    rw [if_neg ascending, if_neg ascending, if_pos descending, fits, Int.add_mul, Int.mul_neg]
    omega

theorem items_eq (progression : Progression) :
    progression.items = (List.range progression.size).map progression.item := by
  rw [items, take, Nat.min_self]

/-- The first numbers are the first of all. -/
theorem take_items (progression : Progression) (limit : Nat) :
    progression.items.take limit = progression.take limit := by
  rw [items_eq, take, ← List.map_take, List.take_range, Nat.min_comm]

end Progression

namespace Range

/-- A number is not past the end, in the direction of the step. -/
def Reaches (range : Range) (number : Int) : Prop :=
  if 0 < range.step.value then number ≤ range.stop.value else range.stop.value ≤ number

instance (range : Range) (number : Int) : Decidable (range.Reaches number) :=
  inferInstanceAs (Decidable
    (if 0 < range.step.value then number ≤ range.stop.value else range.stop.value ≤ number))

/-- A number comes before another, in the direction of the step. -/
def Precedes (range : Range) (number other : Int) : Prop :=
  if 0 < range.step.value then number < other else other < number

/-- The number of members: none if the start is past the end, and else one more than the whole steps
from the start to the end. -/
def count (range : Range) : Int :=
  if range.Reaches range.start.value then
    (range.stop.value - range.start.value).fdiv range.step.value + 1
  else 0

/-- A number is in front of the bound exactly if it is not past the end. -/
theorem isInFront_iff (range : Range) (number : Int) :
    range.progression.IsInFront number ↔ range.Reaches number := by
  unfold Progression.IsInFront Reaches progression
  dsimp only
  by_cases ascending : 0 < range.step.value
  · simp only [if_pos ascending]
    omega
  · simp only [if_neg ascending]
    omega

theorem lt_size_iff {range : Range} (moving : range.step.value ≠ 0) (index : Nat) :
    index < range.progression.size ↔
      range.Reaches (range.start.value + index * range.step.value) := by
  rw [Progression.lt_size_iff moving, isInFront_iff]
  rfl

/-- A number behind the start is not past the end exactly if the way to it is no longer than the way
to the end. -/
theorem reaches_iff_le_fdiv {range : Range} (moving : range.step.value ≠ 0) (index : Nat) :
    range.Reaches (range.start.value + index * range.step.value) ↔
      (index : Int) ≤ (range.stop.value - range.start.value).fdiv range.step.value := by
  unfold Reaches
  by_cases ascending : 0 < range.step.value
  · rw [if_pos ascending, Int.fdiv_eq_ediv_of_nonneg _ (by omega),
      Int.le_ediv_iff_mul_le ascending]
    omega
  · have backwards : 0 < -range.step.value := by omega
    rw [if_neg ascending, ← Int.neg_fdiv_neg, Int.fdiv_eq_ediv_of_nonneg _ (by omega),
      Int.le_ediv_iff_mul_le backwards, Int.mul_neg]
    omega

/-- **There are as many members as counted.** -/
theorem size_eq_count {range : Range} (moving : range.step.value ≠ 0) :
    (range.progression.size : Int) = range.count := by
  have counted (index : Nat) : index < range.progression.size ↔
      (index : Int) ≤ (range.stop.value - range.start.value).fdiv range.step.value :=
    (lt_size_iff moving index).trans (reaches_iff_le_fdiv moving index)
  have started : range.Reaches range.start.value ↔
      0 ≤ (range.stop.value - range.start.value).fdiv range.step.value := by
    simpa using reaches_iff_le_fdiv moving 0
  unfold count
  by_cases nonempty : range.Reaches range.start.value
  · rw [if_pos nonempty]
    have last := counted (range.progression.size - 1)
    have beyond := counted range.progression.size
    have first := counted 0
    have := started.mp nonempty
    omega
  · rw [if_neg nonempty]
    have first := counted 0
    have := mt started.mpr nonempty
    omega

theorem mem_items_iff {range : Range} (moving : range.step.value ≠ 0) (number : Int) :
    number ∈ range.progression.items ↔
      ∃ index : Nat, number = range.start.value + index * range.step.value ∧
        range.Reaches number := by
  rw [Progression.items_eq]
  simp only [List.mem_map, List.mem_range, lt_size_iff moving]
  constructor
  · rintro ⟨index, reached, rfl⟩
    exact ⟨index, rfl, reached⟩
  · rintro ⟨index, rfl, reached⟩
    exact ⟨index, reached, rfl⟩

/-- Members with greater indices come later. -/
theorem pairwise_precedes_items {range : Range} (moving : range.step.value ≠ 0) :
    range.progression.items.Pairwise range.Precedes := by
  rw [Progression.items_eq, List.pairwise_map]
  refine List.pairwise_lt_range.imp fun {index later} before => ?_
  show range.Precedes (range.start.value + index * range.step.value)
    (range.start.value + later * range.step.value)
  have further : (index : Int) < later := by omega
  unfold Precedes
  by_cases ascending : 0 < range.step.value
  · rw [if_pos ascending]
    have := Int.mul_lt_mul_of_pos_right further ascending
    omega
  · rw [if_neg ascending]
    have := Int.mul_lt_mul_of_neg_right further (by omega : range.step.value < 0)
    omega

theorem stop_mem_items_iff {range : Range} (moving : range.step.value ≠ 0) :
    range.stop.value ∈ range.progression.items ↔
      range.progression.items ≠ [] ∧ range.step.value ∣ range.stop.value - range.start.value := by
  constructor
  · intro member
    refine ⟨List.ne_nil_of_mem member, ?_⟩
    obtain ⟨index, equal, _⟩ := (mem_items_iff moving _).mp member
    exact ⟨index, by rw [Int.mul_comm]; omega⟩
  · rintro ⟨nonempty, steps, equal⟩
    -- The first member is not past the end, so the whole steps to it do not lead backwards.
    have started : 0 < range.progression.size := by
      rw [Nat.pos_iff_ne_zero]
      intro none
      exact nonempty (by rw [Progression.items_eq, none]; rfl)
    have forwards : 0 ≤ (range.stop.value - range.start.value).fdiv range.step.value :=
      (reaches_iff_le_fdiv moving 0).mp ((lt_size_iff moving 0).mp started)
    rw [equal, Int.mul_fdiv_cancel_left _ moving] at forwards
    refine (mem_items_iff moving _).mpr ⟨steps.toNat, ?_, ?_⟩
    · rw [Int.toNat_of_nonneg forwards, Int.mul_comm]
      omega
    · unfold Reaches
      split <;> exact Int.le_refl _

/-- A member lies between the start and the end, both of which are words. -/
theorem within_of_mem_items {range : Range} (moving : range.step.value ≠ 0) {number : Int}
    (member : number ∈ range.progression.items) :
    Word.least ≤ number ∧ number ≤ Word.greatest := by
  obtain ⟨index, rfl, reached⟩ := (mem_items_iff moving _).mp member
  have := range.start.least_le
  have := range.start.lt_bound
  have := range.stop.least_le
  have := range.stop.lt_bound
  unfold Reaches at reached
  unfold Word.least Word.greatest
  by_cases ascending : 0 < range.step.value
  · rw [if_pos ascending] at reached
    have := Int.mul_nonneg (Int.natCast_nonneg index) (Int.le_of_lt ascending)
    omega
  · rw [if_neg ascending] at reached
    have := Int.mul_nonneg (Int.natCast_nonneg index)
      (by omega : 0 ≤ -range.step.value)
    rw [Int.mul_neg] at this
    omega

/-- **A range has exactly the members of its inclusive arithmetic progression.** They come one after
another from the start on, at the distance of the step, as long as the end is not passed, and then
there are no more. They ascend or descend with the step, the end is one of them exactly if the step
leads there, and all of them are words. -/
theorem members_progress (range : Range) (moving : range.step.value ≠ 0) :
    let members := range.progression.items
    (∀ limit, range.members limit = .ok (members.take limit)) ∧
    (members.length : Int) = range.count ∧
    (∀ (index : Nat) (inside : index < members.length),
      members[index] = range.start.value + index * range.step.value) ∧
    (∀ number, number ∈ members ↔
      ∃ index : Nat, number = range.start.value + index * range.step.value ∧
        range.Reaches number) ∧
    members.Pairwise range.Precedes ∧
    (range.stop.value ∈ members ↔
      members ≠ [] ∧ range.step.value ∣ range.stop.value - range.start.value) ∧
    ∀ number ∈ members, Word.least ≤ number ∧ number ≤ Word.greatest := by
  intro members
  refine ⟨fun limit => ?_, ?_, fun index inside => ?_, mem_items_iff moving,
    pairwise_precedes_items moving, stop_mem_items_iff moving,
    fun number member => within_of_mem_items moving member⟩
  · rw [Progression.take_items]
    exact if_neg moving
  · show (range.progression.items.length : Int) = range.count
    rw [Progression.items_eq, List.length_map, List.length_range, size_eq_count moving]
  · show range.progression.items[index] = _
    simp only [Progression.items_eq, List.getElem_map, List.getElem_range]
    rfl

/-- The widest range downwards, at the distance of the least step, has two members, and its end is
none of them. -/
theorem members_progress_widest :
    let range : Range := ⟨⟨0x7FFFFFFFFFFFFFFF, by decide, by decide⟩,
      ⟨-0x8000000000000000, by decide, by decide⟩, ⟨-0x8000000000000000, by decide, by decide⟩⟩
    range.step.value ≠ 0 ∧ (range.progression.items.length : Int) = 2 ∧
      range.stop.value ∉ range.progression.items := by
  intro range
  have moving : range.step.value ≠ 0 := by decide
  obtain ⟨_, length, _, _, _, last, _⟩ := members_progress range moving
  refine ⟨moving, length.trans (by decide), fun member => ?_⟩
  exact absurd (last.mp member).2 (by decide)

end Range

end Argline
