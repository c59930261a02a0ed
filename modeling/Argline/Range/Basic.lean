/-
**Ranges and progressions.**

A range is written by its start, its step and its end, the end included. Its members are those of an
arithmetic progression, which is bounded by a number it does not reach.

* `Progression.size`, `Progression.item`, `Progression.items`: how many numbers a progression has,
  the one at an index, and all of them;
* `Progression.traverse`: a function that may fail, applied to one number after another. The numbers
  behind the first failure are never worked out, so a progression may be longer than any list;
* `Range.ofInts`: a range of three integers, each of 64 bits;
* `Range.members`: the first members of a range.
-/

import Argline.Ty

namespace Argline

/-- The numbers `first, first + step, …` that lie before `bound` in the direction of the step. -/
structure Progression where
  first : Int
  step : Int
  bound : Int
deriving DecidableEq, Repr

namespace Progression

/-- The progression of three integers; the step must not be zero. -/
def ofInts (first step bound : Int) : Except Breakage Progression :=
  if step = 0 then .error .zeroDistance else .ok ⟨first, step, bound⟩

/-- The number of numbers: the distance to the bound over the step, rounded up. A step of zero makes
no progression. -/
def size (progression : Progression) : Nat :=
  let distance := progression.bound - progression.first
  if 0 < progression.step then ((distance + progression.step - 1) / progression.step).toNat
  else if progression.step < 0 then
    ((-distance + -progression.step - 1) / -progression.step).toNat
  else 0

/-- The number at an index. -/
def item (progression : Progression) (index : Nat) : Int :=
  progression.first + index * progression.step

/-- The first numbers, as many as asked for if there are as many. -/
def take (progression : Progression) (limit : Nat) : List Int :=
  (List.range (min progression.size limit)).map progression.item

/-- All numbers. -/
def items (progression : Progression) : List Int := progression.take progression.size

/-- Apply a function to `count` numbers from `number` on, as long as it succeeds. The results of the
numbers before are `done`, the last one first. -/
def traverseFrom {ε α : Type} (f : Int → Except ε α) (step : Int) :
    Nat → Int → List α → Except ε (List α)
  | 0, _, done => .ok done.reverse
  | count + 1, number, done =>
    match f number with
    | .error fault => .error fault
    | .ok result => traverseFrom f step count (number + step) (result :: done)

/-- Apply a function to all numbers, as long as it succeeds. -/
def traverse {ε α : Type} (progression : Progression) (f : Int → Except ε α) :
    Except ε (List α) :=
  traverseFrom f progression.step progression.size progression.first []

theorem traverseFrom_eq {ε α : Type} (f : Int → Except ε α) (step : Int) (count : Nat)
    (number : Int) (done : List α) :
    traverseFrom f step count number done =
      ((List.range count).mapM fun index : Nat => f (number + index * step)).map
        (done.reverse ++ ·) := by
  induction count generalizing number done with
  | zero => simp [traverseFrom, pure, Except.pure, Except.map]
  | succ count ih =>
    have shifted (index : Nat) :
        number + ((index + 1 : Nat) : Int) * step = number + step + index * step := by
      rw [Int.natCast_succ, Int.add_mul, Int.one_mul, Int.add_assoc, Int.add_comm step]
    rw [traverseFrom, List.range_succ_eq_map, List.mapM_cons, List.mapM_map]
    simp only [Int.natCast_zero, Int.zero_mul, Int.add_zero, Function.comp_def,
      Nat.succ_eq_add_one, shifted]
    cases f number with
    | error fault => rfl
    | ok result =>
      simp only [ih, bind, Except.bind, pure, Except.pure, Except.map]
      split <;> simp_all

/-- The results are those of the list of all numbers. -/
theorem traverse_eq_mapM_items {ε α : Type} (progression : Progression) (f : Int → Except ε α) :
    progression.traverse f = progression.items.mapM f := by
  rw [traverse, traverseFrom_eq, items, take, Nat.min_self, List.mapM_map]
  simp only [Function.comp_def, item, List.reverse_nil, List.nil_append]
  cases (List.range progression.size).mapM
    fun index : Nat => f (progression.first + index * progression.step) <;> rfl

end Progression

/-- The integers from a start to an end, which is included, at the distance of a step. -/
structure Range where
  start : Word
  step : Word
  stop : Word
deriving DecidableEq, Repr

namespace Range

/-- A component of a range as a word. An integer that is too long to be written breaks the run off
before its text can be shown. -/
def component (name : String) (number : Int) : Except Breakage Word :=
  match Word.ofInt? number with
  | some word => .ok word
  | none => .error (match writeInteger number with
    | some text => .outsideWord name text
    | none => .integerTooBig)

/-- The range of three integers. -/
def ofInts (start step stop : Int) : Except Breakage Range := do
  let start ← component "start" start
  let step ← component "step" step
  let stop ← component "end" stop
  pure ⟨start, step, stop⟩

/-- The progression of the members: its bound lies one past the end in the direction of the step. -/
def progression (range : Range) : Progression where
  first := range.start.value
  step := range.step.value
  bound := range.stop.value + if 0 < range.step.value then 1 else -1

/-- The first members of a range, as many as asked for if there are as many. -/
def members (range : Range) (limit : Nat) : Except Breakage (List Int) :=
  if range.step.value = 0 then .error .zeroStep else .ok (range.progression.take limit)

/-- The canonical text of a range: its three components with two points between them. -/
def text (range : Range) : String :=
  range.start.text ++ ".." ++ range.step.text ++ ".." ++ range.stop.text

end Range

end Argline
