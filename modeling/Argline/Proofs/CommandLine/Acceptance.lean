/-
**Which command lines are accepted.**

A command line is accepted if it is segments and nothing else, each of which stores a value, and if
every parameter has one then.

* `Command.Stores`: what an option stores that is given tokens;
* `Command.Settles`: what a segment stores that leaves no token over;
* `Command.performSegments_eq_ok_iff`: segments are carried out exactly if each one settles a slot of
  its own;
* `Command.Accepts`, `Command.parse_eq_ok_iff`: what an accepted command line is, and what it comes to.
-/

import Argline.CommandLine.Command
import Argline.Proofs.CommandLine.Segments
import Argline.Proofs.CommandLine.Slots
import Argline.Proofs.Value.Tokens

namespace Argline

/-! ### Options -/

/-- The tokens that the option of a segment is given. -/
def Segment.given (segment : Segment) : List String :=
  match segment.mark.inline with
  | none => segment.tokens
  | some argument => inlineTokens argument

/-- The option of a segment takes some tokens and leaves others. -/
def Segment.Splits (segment : Segment) (taken left : List String) : Prop :=
  match segment.mark.inline with
  | none => taken ++ left = segment.tokens
  | some argument => taken = inlineTokens argument ∧ left = segment.tokens

/-- An option that leaves no token is given all of them, and none behind an inline argument. -/
theorem Segment.Splits.given {segment : Segment} {taken : List String}
    (splits : segment.Splits taken []) :
    taken = segment.given ∧ (segment.mark.inline.isSome → segment.tokens = []) := by
  obtain ⟨⟨flag, target, inline⟩, tokens⟩ := segment
  cases inline with
  | none => exact ⟨(List.append_nil taken).symm.trans splits, fun inline => by cases inline⟩
  | some argument => exact ⟨splits.1, fun _ => splits.2.symm⟩

/-- No token is left but those behind the flag. -/
theorem Segment.Splits.left_subset {segment : Segment} {taken left : List String}
    (splits : segment.Splits taken left) : left ⊆ segment.tokens := by
  obtain ⟨⟨flag, target, inline⟩, tokens⟩ := segment
  intro token member
  cases inline with
  | none =>
    have whole : taken ++ left = tokens := splits
    exact whole ▸ List.mem_append_right _ member
  | some argument => exact splits.2 ▸ member

namespace Target

/-- An option takes as many tokens as it may be given. -/
theorem take_of_admits {target : Target} {arity : Arity} (takes : target.arity = some arity)
    {tokens : List String} (admitted : arity.Admits tokens) :
    target.take tokens = .ok (tokens, []) := by
  cases arity with
  | single =>
    obtain ⟨token, rfl⟩ := admitted
    simp [take, takes]
  | flag =>
    match tokens, admitted with
    | [], _ => simp [take, takes]
    | [token], _ => simp [take, takes]
  | greedy =>
    obtain ⟨token, rest, rfl⟩ := List.exists_cons_of_ne_nil admitted
    simp [take, takes]

/-- The tokens that an option takes and those that it leaves are all there are. -/
theorem append_of_take {target : Target} {tokens taken left : List String}
    (took : target.take tokens = .ok (taken, left)) : taken ++ left = tokens := by
  unfold take at took
  split at took <;> cases took <;> simp

end Target

namespace Command

variable (command : Command)

/-- What an option stores that is given tokens. -/
inductive Stores : Target → List String → String × Value → Prop
  | parameter {option : ParameterOption} {tokens : List String} {value : Value}
    (read : Value.ofTokens option.parameter.type tokens = .ok value) :
    Stores (.parameter option) tokens (option.parameter.name, value)
  | simulator {option : BuiltinOption} {tokens : List String} {value : Value}
    (takes : option.builtin.takesValue = true)
    (selected : command.selectSimulator tokens = .ok value) :
    Stores (.builtin option) tokens (simulatorSlot, value)

/-- What a segment stores that leaves no token over. -/
structure Settles (segment : Segment) (entry : String × Value) : Prop where
  stores : command.Stores segment.mark.target segment.given entry
  alone : segment.mark.inline.isSome → segment.tokens = []

variable {command}

theorem selectSimulator_eq_ok_iff (tokens : List String) (value : Value) :
    command.selectSimulator tokens = .ok value ↔
      ∃ name, tokens = [name] ∧ name ∈ command.simulators ∧ value = .text name := by
  unfold selectSimulator
  split
  · next name =>
    split
    · next registered =>
      rw [List.contains_iff_mem] at registered
      simp [registered, eq_comm]
    · next unregistered =>
      rw [List.contains_iff_mem] at unregistered
      simp [reject, unregistered]
  · next several => simpa [reject] using fun name equal _ => absurd equal (several name)

/-- An option that stores a value takes tokens, and as many as it is given. -/
theorem Stores.admits {target : Target} {tokens : List String} {entry : String × Value}
    (stores : command.Stores target tokens entry) :
    ∃ arity, target.arity = some arity ∧ arity.Admits tokens := by
  cases stores with
  | parameter read => exact ⟨_, rfl, Value.admits_of_ofTokens read⟩
  | simulator takes selected =>
    obtain ⟨name, only, _⟩ := (selectSimulator_eq_ok_iff _ _).mp selected
    exact ⟨.single, by simp [Target.arity, takes], name, only⟩

theorem orReject_eq_ok_iff {α : Type} (stage : Except (Halt Rejection) α) (value : α) :
    orReject stage = .ok value ↔ stage = .ok value := by
  unfold orReject reject
  split <;> simp

theorem orBreak_eq_ok_iff {ε α : Type} (stage : Except Breakage α) (value : α) :
    (orBreak stage : Except (Halt ε) α) = .ok value ↔ stage = .ok value := by
  unfold orBreak
  split <;> simp

/-- A value is stored under a name exactly if there is one and the name is free. -/
theorem store_eq_ok_iff (slots next : Slots) (name : String) (taken : Rejection)
    (stage : Except (Halt Stop) Value) :
    (if slots.contains name then reject taken else do
        let value ← stage
        pure (slots.insert name value)) = .ok next ↔
      ∃ value, stage = .ok value ∧ slots.contains name = false ∧ next = slots.insert name value := by
  split
  · next taken => simp [reject, taken]
  · next free =>
    rw [bind_eq_ok_iff]
    simp only [pure_eq_ok_iff, eq_comm (a := next), Bool.not_eq_true] at free ⊢
    simp [free]

/-- **An action takes place exactly if its option stores a value under a name that is free.** -/
theorem perform_eq_ok_iff (slots next : Slots) (action : Action) :
    command.perform slots action = .ok next ↔
      ∃ entry, command.Stores action.target action.tokens entry ∧
        slots.contains entry.1 = false ∧ next = slots.insert entry.1 entry.2 := by
  obtain ⟨flag, target, tokens⟩ := action
  cases target with
  | parameter option =>
    simp only [perform, store_eq_ok_iff, orReject_eq_ok_iff]
    constructor
    · rintro ⟨value, read, free, rfl⟩
      exact ⟨_, .parameter read, free, rfl⟩
    · rintro ⟨_, ⟨read⟩, free, rfl⟩
      exact ⟨_, read, free, rfl⟩
  | builtin option =>
    by_cases takes : option.builtin.takesValue = true
    · simp only [perform, takes, if_true, store_eq_ok_iff]
      constructor
      · rintro ⟨value, selected, free, rfl⟩
        exact ⟨_, .simulator takes selected, free, rfl⟩
      · rintro ⟨_, _ | ⟨_, selected⟩, free, rfl⟩
        exact ⟨_, selected, free, rfl⟩
    · simp only [perform, takes]
      refine iff_of_false (by simp [bind_eq_ok_iff]) ?_
      rintro ⟨_, _ | ⟨takes', _⟩, _⟩
      exact takes takes'

/-! ### Segments -/

/-- An option that takes tokens is given its inline argument. -/
theorem takeInline_of_arity {table : List (String × Target)} {target : Target}
    (takes : target.arity.isSome = true) (tokens : List String) (argument : List Char)
    (flag : String) :
    takeInline table tokens argument flag target =
      .ok ([⟨flag, target, inlineTokens (String.ofList argument)⟩], tokens) := by
  cases argument with
  | nil => rw [takeInline, if_pos takes]
  | cons c rest => rw [takeInline, if_pos takes]

/-- The actions of an inline argument begin with that of the option in front of it. -/
theorem actions_of_takeInline {table : List (String × Target)} {tokens left : List String}
    {argument : List Char} {flag : String} {target : Target} {actions : List Action}
    (took : takeInline table tokens argument flag target = .ok (actions, left)) :
    (actions = [⟨flag, target, inlineTokens (String.ofList argument)⟩] ∧ left = tokens) ∨
      target.arity = none ∧ ∃ more, actions = ⟨flag, target, []⟩ :: more := by
  by_cases takes : target.arity.isSome = true
  · rw [takeInline_of_arity takes] at took
    cases took
    exact .inl ⟨rfl, rfl⟩
  · refine .inr ⟨by simpa using takes, ?_⟩
    cases argument with
    | nil =>
      rw [takeInline, if_neg takes] at took
      split at took <;> cases took
    | cons c rest =>
      rw [takeInline, if_neg takes] at took
      split at took
      · cases took
      · dsimp only at took
        split at took
        · cases took
        · split at took
          all_goals
            obtain ⟨⟨more, _⟩, _, equal⟩ := bind_eq_ok_iff.mp took
            cases equal
            exact ⟨more, rfl⟩

/-- A segment is one action, or asks for something. -/
theorem actions_of_segment {table : List (String × Target)} {segment : Segment}
    {actions : List Action} {left : List String}
    (took : segment.actions table = .ok (actions, left)) :
    (∃ taken, segment.Splits taken left ∧
        actions = [⟨segment.mark.flag, segment.mark.target, taken⟩]) ∨
      segment.mark.target.arity = none ∧
        ∃ more, actions = ⟨segment.mark.flag, segment.mark.target, []⟩ :: more := by
  obtain ⟨⟨flag, target, inline⟩, tokens⟩ := segment
  cases inline with
  | none =>
    have behind : takeBehind flag target tokens = .ok (actions, left) := took
    unfold takeBehind at behind
    split at behind
    · next taken left' took' =>
      cases behind
      exact .inl ⟨taken, Target.append_of_take took', rfl⟩
    · cases behind
  | some argument =>
    rcases actions_of_takeInline took with ⟨rfl, rfl⟩ | asked
    · refine .inl ⟨_, ⟨rfl, rfl⟩, ?_⟩
      rw [String.ofList_toList]
    · exact .inr asked

/-- A segment settles what it settles by one action. -/
theorem Settles.actions {segment : Segment} {entry : String × Value}
    (settles : command.Settles segment entry) (table : List (String × Target)) :
    segment.actions table =
      .ok ([⟨segment.mark.flag, segment.mark.target, segment.given⟩], []) := by
  obtain ⟨arity, takes, admitted⟩ := settles.stores.admits
  obtain ⟨⟨flag, target, inline⟩, tokens⟩ := segment
  cases inline with
  | none =>
    have took : target.take tokens = .ok (tokens, []) := Target.take_of_admits takes admitted
    show takeBehind flag target tokens = .ok ([⟨flag, target, tokens⟩], [])
    rw [takeBehind, took]
  | some argument =>
    obtain rfl : tokens = [] := settles.alone rfl
    have takes' : target.arity.isSome = true := Option.isSome_of_eq_some takes
    show takeInline table [] argument.toList flag target =
      .ok ([⟨flag, target, inlineTokens argument⟩], [])
    rw [takeInline_of_arity takes', String.ofList_toList]

/-- **A segment is carried out without a token left exactly if it settles a slot that is free.** -/
theorem performSegment_eq_ok_iff (slots next : Slots) (left : List String) (segment : Segment) :
    command.performSegment (slots, left) segment = .ok (next, []) ↔
      left = [] ∧ ∃ entry, command.Settles segment entry ∧ slots.contains entry.1 = false ∧
        next = slots.insert entry.1 entry.2 := by
  constructor
  · intro performed
    unfold performSegment at performed
    split at performed
    · cases performed
    · next actions more took =>
      obtain ⟨last, folded, equal⟩ := bind_eq_ok_iff.mp performed
      simp only [pure_eq_ok_iff, Prod.mk.injEq, List.append_eq_nil_iff] at equal
      obtain ⟨rfl, rfl, rfl⟩ := equal
      refine ⟨rfl, ?_⟩
      rcases actions_of_segment took with ⟨taken, splits, rfl⟩ | ⟨takes, others, rfl⟩
      · rw [List.foldlM_cons] at folded
        obtain ⟨_, first, same⟩ := bind_eq_ok_iff.mp folded
        cases same
        obtain ⟨entry, stores, stored⟩ := (perform_eq_ok_iff _ _ _).mp first
        obtain ⟨rfl, alone⟩ := splits.given
        exact ⟨entry, ⟨stores, alone⟩, stored⟩
      · rw [List.foldlM_cons] at folded
        obtain ⟨_, first, _⟩ := bind_eq_ok_iff.mp folded
        obtain ⟨entry, stores, _⟩ := (perform_eq_ok_iff _ _ _).mp first
        obtain ⟨arity, takes', _⟩ := stores.admits
        rw [takes] at takes'
        cases takes'
  · rintro ⟨rfl, entry, settles, free, rfl⟩
    have performed := (perform_eq_ok_iff slots _
      ⟨segment.mark.flag, segment.mark.target, segment.given⟩).mpr ⟨entry, settles.stores, free, rfl⟩
    simp only [performSegment, settles.actions, List.foldlM_cons, List.foldlM_nil, performed]
    rfl

/-- **Segments are carried out exactly if each one settles a slot of its own.** -/
theorem performSegments_eq_ok_iff (segments : List Segment) (slots final : Slots)
    (left : List String) :
    segments.foldlM command.performSegment (slots, left) = .ok (final, []) ↔
      left = [] ∧ ∃ entries, List.Forall₂ command.Settles segments entries ∧
        (entries.map Prod.fst).Nodup ∧ (∀ entry ∈ entries, slots.contains entry.1 = false) ∧
        final = ⟨slots.entries ++ entries⟩ := by
  induction segments generalizing slots left with
  | nil =>
    simp only [List.foldlM_nil, pure_eq_ok_iff, Prod.mk.injEq, List.forall₂_nil_left_iff,
      exists_eq_left]
    constructor
    · rintro ⟨rfl, rfl⟩
      exact ⟨rfl, by simp, by simp, by simp⟩
    · rintro ⟨rfl, _, _, rfl⟩
      exact ⟨by simp, rfl⟩
  | cons segment rest ih =>
    rw [List.foldlM_cons]
    constructor
    · intro folded
      obtain ⟨⟨next, left'⟩, first, others⟩ := bind_eq_ok_iff.mp folded
      obtain ⟨rfl, entries, settled, distinct, free, rfl⟩ := (ih next left').mp others
      obtain ⟨rfl, entry, settles, available, rfl⟩ := (performSegment_eq_ok_iff _ _ _ _).mp first
      simp only [Slots.contains_insert] at free
      refine ⟨rfl, entry :: entries, .cons settles settled, ?_, ?_, ?_⟩
      · rw [List.map_cons, List.nodup_cons]
        refine ⟨fun member => ?_, distinct⟩
        obtain ⟨other, member, same⟩ := List.mem_map.mp member
        exact (free other member).2 same
      · rintro other (_ | ⟨_, member⟩)
        · exact available
        · exact (free other member).1
      · simp [Slots.insert]
    · rintro ⟨rfl, _, settled, distinct, free, rfl⟩
      obtain ⟨entry, entries, settles, others, rfl⟩ := List.forall₂_cons_left_iff.mp settled
      rw [List.map_cons, List.nodup_cons] at distinct
      have available := free entry List.mem_cons_self
      refine bind_eq_ok_iff.mpr ⟨(slots.insert entry.1 entry.2, []),
        (performSegment_eq_ok_iff _ _ _ _).mpr ⟨rfl, entry, settles, available, rfl⟩, ?_⟩
      refine (ih _ _).mpr ⟨rfl, entries, others, distinct.2, fun other member => ?_, ?_⟩
      · rw [Slots.contains_insert]
        refine ⟨free other (List.mem_cons_of_mem _ member), fun same => distinct.1 ?_⟩
        exact same ▸ List.mem_map_of_mem member
      · simp [Slots.insert]

/-! ### Command lines -/

/-- What segments store is complete, and nothing is left over. -/
structure Accepts (command : Command) (segments : List Segment) (entries : List (String × Value)) :
    Prop where
  settled : List.Forall₂ command.Settles segments entries
  distinct : (entries.map Prod.fst).Nodup
  free : ∀ entry ∈ entries, entry.1 ∉ reservedNames
  surplus : (⟨entries⟩ : Slots).surplus = .ok []
  present : command.missing (Slots.erase ⟨entries⟩ surplusSlot) = []

/-- No parameter is missing if something is stored for each of them. -/
theorem missing_eq_nil_iff (slots : Slots) :
    command.missing slots = [] ↔
      ∀ option ∈ command.schema.parameters, slots.contains option.parameter.name = true := by
  simp [missing, List.filter_eq_nil_iff]

/-- **A command line is accepted exactly if it is segments that store a value for every parameter.** -/
theorem parse_eq_ok_iff (tokens : List String) (call : Call) :
    command.parse tokens = .ok call ↔ ∃ segments entries,
      CommandLine.Spells command.schema.table segments tokens ∧ command.Accepts segments entries ∧
        call = command.call (Slots.erase ⟨entries⟩ surplusSlot) := by
  constructor
  · intro parsed
    obtain ⟨⟨slots, left⟩, scanned, judged⟩ := bind_eq_ok_iff.mp parsed
    obtain ⟨surplus, taken, decided⟩ := bind_eq_ok_iff.mp judged
    rw [orBreak_eq_ok_iff] at taken
    obtain ⟨⟨slots', more⟩, performed, equal⟩ := bind_eq_ok_iff.mp scanned
    cases equal
    split at decided
    · next nothing =>
      rw [Bool.and_eq_true, List.isEmpty_iff, List.isEmpty_iff, List.append_eq_nil_iff] at nothing
      -- nothing is left over, so no token stands in front of the segments or behind them
      obtain ⟨⟨rfl, trailing⟩, rfl⟩ := nothing
      obtain ⟨leading, entries, settled, distinct, free, rfl⟩ :=
        (performSegments_eq_ok_iff _ _ _ _).mp performed
      simp only [Slots.contains_empty] at free
      dsimp only at decided
      split at decided
      · next present =>
        cases decided
        exact ⟨_, entries, CommandLine.spells_of_ofTokens leading trailing,
          ⟨settled, distinct, free, taken, List.isEmpty_iff.mp present⟩, rfl⟩
      · cases decided
    · obtain ⟨texts, _, rejected⟩ := bind_eq_ok_iff.mp decided
      cases rejected
  · rintro ⟨segments, entries, spells, accepts, rfl⟩
    have scanned : command.scan tokens = .ok (⟨entries⟩, []) := by
      have performed := (performSegments_eq_ok_iff segments .empty ⟨entries⟩ []).mpr
        ⟨rfl, entries, accepts.settled, accepts.distinct,
          fun entry member => (Slots.contains_empty _).mpr (accepts.free entry member), rfl⟩
      rw [scan, (CommandLine.ofTokens_eq_iff tokens segments).mpr spells]
      exact bind_eq_ok_iff.mpr ⟨_, performed, rfl⟩
    refine bind_eq_ok_iff.mpr ⟨_, scanned, bind_eq_ok_iff.mpr ⟨[], ?_, ?_⟩⟩
    · exact (orBreak_eq_ok_iff _ _).mpr accepts.surplus
    · simp [accepts.present, pure_eq_ok_iff]

end Command

end Argline
