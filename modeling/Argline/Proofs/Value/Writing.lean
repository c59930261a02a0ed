/-
**Values that have no text.**

* `Value.Mentions`, `Value.Hides`: an integer occurs in a value, and an object that cannot be shown does;
* `Value.Undisplayed`, `Value.undisplayed_of_display`: a value that messages cannot show has an integer in
  it that is too big to be written, or an object that cannot be shown;
* `Ty.innermost`: the type of the single values that an array is made of in the end;
* `Value.Unwritten`, `Value.unwritten_of_format`: a value that has no text of a type does not belong to
  it, unless an integer in it is too big or an object in it cannot be shown.
-/

import Argline.Proofs.Number.IntegerText
import Argline.Proofs.Outcome
import Argline.Value.Format

namespace Argline

/-- The type of the single values that the values of a type are made of. -/
def Ty.innermost : Ty → Scalar
  | .scalar kind => kind
  | .array element => element.innermost

namespace Value

/-- An integer occurs in a value. A progression has its bounds and its numbers in it. -/
inductive Mentions (number : Int) : Value → Prop
  | int : Mentions number (.int number)
  | bound {numbers : Progression}
    (among : number ∈ [numbers.first, numbers.bound, numbers.step]) :
    Mentions number (.progression numbers)
  | number {numbers : Progression} (among : number ∈ numbers.items) :
    Mentions number (.progression numbers)
  | list {items : List Value} {item : Value} (member : item ∈ items)
    (mentions : Mentions number item) : Mentions number (.list items)
  | tuple {items : List Value} {item : Value} (member : item ∈ items)
    (mentions : Mentions number item) : Mentions number (.tuple items)

/-- An object occurs in a value that cannot be shown, with what happens where it is to be. -/
inductive Hides (breakage : Breakage) : Value → Prop
  | object {typeName : String} : Hides breakage (.object typeName (.error breakage))
  | list {items : List Value} {item : Value} (member : item ∈ items) (hides : Hides breakage item) :
    Hides breakage (.list items)
  | tuple {items : List Value} {item : Value} (member : item ∈ items) (hides : Hides breakage item) :
    Hides breakage (.tuple items)

/-- The integers in the items of a sequence are in the sequence. -/
theorem Mentions.of_items? {number : Int} {value item : Value} {items : List Value}
    (sequence : value.items? = some items) (member : item ∈ items)
    (mentions : item.Mentions number) : value.Mentions number := by
  unfold items? at sequence
  split at sequence
  · cases sequence
    exact .list member mentions
  · cases sequence
    exact .tuple member mentions
  · next numbers =>
    cases sequence
    obtain ⟨other, among, rfl⟩ := List.mem_map.mp member
    cases mentions
    exact .number among
  · cases sequence

/-- The objects in the items of a sequence are in the sequence. -/
theorem Hides.of_items? {breakage : Breakage} {value item : Value} {items : List Value}
    (sequence : value.items? = some items) (member : item ∈ items) (hides : item.Hides breakage) :
    value.Hides breakage := by
  unfold items? at sequence
  split at sequence
  · cases sequence
    exact .list member hides
  · cases sequence
    exact .tuple member hides
  · cases sequence
    obtain ⟨other, _, rfl⟩ := List.mem_map.mp member
    cases hides
  · cases sequence

/-! ### Display -/

/-- The ways in which messages cannot show a value. -/
inductive Undisplayed (value : Value) : Breakage → Prop
  /-- An integer in it is too big to be written. -/
  | tooBig {number : Int} (mentions : value.Mentions number) (big : ¬ IsWritable number) :
    Undisplayed value .integerTooBig
  /-- An object in it cannot be shown. -/
  | hidden {breakage : Breakage} (hides : value.Hides breakage) : Undisplayed value breakage

/-- What cannot be shown of the items of a sequence cannot be shown of the sequence. -/
theorem Undisplayed.of_items? {breakage : Breakage} {value item : Value} {items : List Value}
    (sequence : value.items? = some items) (member : item ∈ items)
    (undisplayed : item.Undisplayed breakage) : value.Undisplayed breakage := by
  cases undisplayed with
  | tooBig mentions big => exact .tooBig (.of_items? sequence member mentions) big
  | hidden hides => exact .hidden (.of_items? sequence member hides)

theorem not_isWritable_of_writeInteger {number : Int} (unwritten : writeInteger number = none) :
    ¬ IsWritable number := by
  intro small
  rw [writeInteger_eq_some small] at unwritten
  cases unwritten

theorem undisplayed_of_displayInt {number : Int} {value : Value} {breakage : Breakage}
    (mentions : value.Mentions number) (failed : displayInt number = .error breakage) :
    value.Undisplayed breakage := by
  unfold displayInt at failed
  split at failed
  · cases failed
  · next unwritten =>
    cases failed
    exact .tooBig mentions (not_isWritable_of_writeInteger unwritten)

theorem undisplayed_of_displayProgression {numbers : Progression} {breakage : Breakage}
    (failed : displayProgression numbers = .error breakage) :
    Undisplayed (.progression numbers) breakage := by
  rcases bind_eq_error_iff.mp failed with first | ⟨_, _, failed⟩
  · exact undisplayed_of_displayInt (.bound (by simp)) first
  rcases bind_eq_error_iff.mp failed with last | ⟨_, _, failed⟩
  · exact undisplayed_of_displayInt (.bound (by simp)) last
  split at failed
  · cases failed
  · rcases bind_eq_error_iff.mp failed with step | ⟨_, _, failed⟩
    · exact undisplayed_of_displayInt (.bound (by simp)) step
    · cases failed

mutual

/-- **A value that cannot be shown has an integer in it that is too big, or an object that cannot be
shown.** -/
theorem undisplayed_of_display {value : Value} {breakage : Breakage}
    (failed : value.display = .error breakage) : value.Undisplayed breakage := by
  cases value with
  | int number =>
    rw [display] at failed
    exact undisplayed_of_displayInt .int failed
  | progression numbers =>
    rw [display] at failed
    exact undisplayed_of_displayProgression failed
  | list items =>
    rw [display, map_eq_error_iff] at failed
    obtain ⟨item, member, undisplayed⟩ := undisplayed_of_displayAll failed
    exact undisplayed.of_items? rfl member
  | tuple items =>
    rw [display, map_eq_error_iff] at failed
    obtain ⟨item, member, undisplayed⟩ := undisplayed_of_displayAll failed
    exact undisplayed.of_items? rfl member
  | object typeName shown =>
    rw [display] at failed
    exact .hidden (failed ▸ .object)
  | _ =>
    rw [display] at failed
    cases failed

theorem undisplayed_of_displayAll {values : List Value} {breakage : Breakage}
    (failed : displayAll values = .error breakage) :
    ∃ value ∈ values, value.Undisplayed breakage := by
  cases values with
  | nil =>
    rw [displayAll] at failed
    cases failed
  | cons value values =>
    rw [displayAll] at failed
    split at failed
    · cases failed
    · next unshown =>
      cases failed
      exact ⟨value, List.mem_cons_self, undisplayed_of_display unshown⟩
    · next unshown =>
      cases failed
      obtain ⟨other, member, undisplayed⟩ := undisplayed_of_displayAll unshown
      exact ⟨other, List.mem_cons_of_mem _ member, undisplayed⟩

end

/-! ### Canonical text -/

/-- The ways in which a value has no text of a type. -/
inductive Unwritten (type : Ty) (value : Value) : Halt Mismatch → Prop
  /-- The value does not belong to the type. -/
  | mismatch {mismatch : Mismatch} : Unwritten type value (.refused mismatch)
  /-- An integer in it is too big to be written, or an object in it cannot be shown. -/
  | undisplayed {breakage : Breakage} (undisplayed : value.Undisplayed breakage) :
    Unwritten type value (.broken breakage)
  /-- An integer in it is to be a double and is beyond the finite ones. -/
  | overflow {number : Int} (double : type.innermost = .double) (mentions : value.Mentions number)
    (beyond : Double.ofInt? number = none) : Unwritten type value (.broken .doubleOverflow)

theorem unwritten_misfit (type expected : Ty) (value : Value) :
    Unwritten type value (misfit expected value) := by
  unfold misfit
  split
  · exact .mismatch
  · next unshown => exact .undisplayed (undisplayed_of_display unshown)

theorem unwritten_of_formatInt {type : Ty} {number : Int} {halt : Halt Mismatch}
    (failed : formatInt number = .error halt) : Unwritten type (.int number) halt := by
  unfold formatInt at failed
  split at failed
  · cases failed
  · next unwritten =>
    cases failed
    exact .undisplayed (.tooBig .int (not_isWritable_of_writeInteger unwritten))

theorem unwritten_of_formatScalar {kind : Scalar} {value : Value} {halt : Halt Mismatch}
    (failed : formatScalar kind value = .error halt) : Unwritten (.scalar kind) value halt := by
  revert failed
  fun_cases formatScalar kind value with
  | case3 number word => exact unwritten_of_formatInt
  | case4 number other =>
    intro failed
    exact Except.error.inj failed ▸ unwritten_misfit _ _ _
  | case5 number => exact unwritten_of_formatInt
  | case8 number beyond =>
    intro failed
    exact Except.error.inj failed ▸ .overflow rfl .int beyond
  | case14 =>
    intro failed
    exact Except.error.inj failed ▸ unwritten_misfit _ _ _
  | _ => exact fun failed => nomatch failed

/-- **A value that has no text of a type does not belong to it**, unless an integer in it is too big or
an object in it cannot be shown. -/
theorem unwritten_of_format {type : Ty} {value : Value} {halt : Halt Mismatch}
    (failed : format type value = .error halt) : Unwritten type value halt := by
  induction type generalizing value halt with
  | scalar kind => exact unwritten_of_formatScalar failed
  | array element ih =>
    rw [format, traverse?_eq] at failed
    cases sequence : value.items? with
    | none =>
      rw [sequence] at failed
      cases failed
      exact unwritten_misfit _ _ _
    | some items =>
      rw [sequence, Option.map_some] at failed
      obtain ⟨item, member, failed⟩ :=
        exists_mem_of_mapM_eq_error (map_eq_error_iff.mp failed)
      cases ih failed with
      | mismatch => exact .mismatch
      | undisplayed undisplayed => exact .undisplayed (undisplayed.of_items? sequence member)
      | overflow double mentions beyond =>
        exact .overflow double (.of_items? sequence member mentions) beyond

end Value

end Argline
