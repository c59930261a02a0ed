/-
**Calls written as command lines.**

* `CommandLine.IsArgument`: a token that stands for itself;
* `ParameterOption.segment`: an option with the tokens of its value;
* `Runner.parse_spelled`: a command line that spells a value for each parameter, in any order and under
  any flags, is read as these values.
-/

import Argline.Proofs.CommandLine.Acceptance
import Argline.Proofs.Run.Built
import Argline.Proofs.Value.Spelling

namespace Argline

/-- A token that is neither read as an option nor ends the options. -/
structure CommandLine.IsArgument (table : List (String × Target)) (token : String) : Prop where
  ne_terminator : token ≠ terminator
  unmarked : Mark.ofToken? table token = none

namespace ParameterOption

/-- An option under one of its flags, with the tokens behind it. -/
def segment (option : ParameterOption) (flag : String) (tokens : List String) : Segment :=
  ⟨⟨flag, .parameter option, none⟩, tokens⟩

/-- The value that an option stores. -/
def stored (assign : String → Value) (option : ParameterOption) : String × Value :=
  (option.parameter.name, assign option.parameter.name)

end ParameterOption

namespace Schema

variable {schema : Schema} {parameters : List Parameter} {beginning : String}
  (built : schema.IsBuilt parameters Builtin.standard beginning)

include built

/-- Tokens that do not begin like a flag stand for themselves. -/
theorem IsBuilt.isArgument {token : String} (unlike : ¬ IsOptionLike token) :
    CommandLine.IsArgument schema.table token where
  ne_terminator := by
    rintro rfl
    exact unlike isOptionLike_terminator
  unmarked := Option.eq_none_iff_forall_ne_some.mpr fun _ marked =>
    unlike (built.isOptionLike marked)

/-- **Options with their flags and arguments are cut as they are.** -/
theorem IsBuilt.spells_segments {order : List ParameterOption}
    (declared : ∀ option ∈ order, option ∈ schema.parameters) {flagOf : ParameterOption → String}
    (flags : ∀ option ∈ order, flagOf option ∈ option.flags)
    {tokensOf : ParameterOption → List String}
    (arguments : ∀ option ∈ order, ∀ token ∈ tokensOf option,
      CommandLine.IsArgument schema.table token) :
    CommandLine.Spells schema.table
      (order.map fun option => option.segment (flagOf option) (tokensOf option))
      (order.flatMap fun option => flagOf option :: tokensOf option) where
  spelled := by
    rw [List.flatMap_map]
    rfl
  isCut := by
    intro segment member
    obtain ⟨option, inOrder, rfl⟩ := List.mem_map.mp member
    have plain := built.equals_notMem_flags_of_parameter (declared option inOrder)
      (flags option inOrder)
    have found := built.lookup_of_parameter (declared option inOrder) (flags option inOrder)
    exact ⟨Mark.ofToken?_flag plain found,
      fun token inTokens => (arguments option inOrder token inTokens).unmarked⟩
  unterminated := by
    rw [List.mem_flatMap]
    rintro ⟨option, inOrder, member⟩
    rcases List.mem_cons.mp member with same | inTokens
    · have found := built.lookup_of_parameter (declared option inOrder) (flags option inOrder)
      exact (built.isFlag found).ne_terminator same.symm
    · exact (arguments option inOrder _ inTokens).ne_terminator rfl

end Schema

namespace Runner

variable {m : Type → Type} {entry : Entry m} {settings : Settings}
  {simulators : List (String × Simulator m)} {runner : Runner m}

section Stored

variable (built : runner.IsBuilt entry settings simulators) {order : List ParameterOption}
  (perm : order.Perm runner.command.schema.parameters) (assign : String → Value)

include built perm

/-- What is stored bears the names of the parameters. -/
theorem IsBuilt.names_stored :
    ((order.map (ParameterOption.stored assign)).map Prod.fst).Perm
      (entry.parameters.map Parameter.name) := by
  have same := (perm.map ParameterOption.parameter).map Parameter.name
  rw [built.schema.parameters] at same
  simpa [Function.comp_def, ParameterOption.stored] using same

theorem IsBuilt.nodup_stored : ((order.map (ParameterOption.stored assign)).map Prod.fst).Nodup :=
  (built.names_stored perm assign).nodup_iff.mpr built.schema.nodup_names

/-- Nothing is stored under a name that is no parameter's. -/
theorem IsBuilt.notMem_stored {slot : String}
    (apart : ∀ parameter ∈ entry.parameters, parameter.name ≠ slot) :
    slot ∉ (order.map (ParameterOption.stored assign)).map Prod.fst := by
  rw [(built.names_stored perm assign).mem_iff, List.mem_map]
  rintro ⟨parameter, member, equal⟩
  exact apart parameter member equal

variable (free : ∀ parameter ∈ entry.parameters, parameter.IsFree)

include free

/-- **Segments that store a value for every parameter are accepted.** -/
theorem IsBuilt.accepts_segments {flagOf : ParameterOption → String}
    {tokensOf : ParameterOption → List String}
    (read : ∀ option ∈ order, Value.ofTokens option.parameter.type (tokensOf option) =
      .ok (assign option.parameter.name)) :
    runner.command.Accepts
      (order.map fun option => option.segment (flagOf option) (tokensOf option))
      (order.map (ParameterOption.stored assign)) := by
  have noSurplus := built.notMem_stored perm assign fun parameter member =>
    (free parameter member).surplus
  refine ⟨?_, built.nodup_stored perm assign, ?_, Slots.surplus_of_notMem noSurplus, ?_⟩
  · rw [List.forall₂_map_left_iff, List.forall₂_map_right_iff, List.forall₂_same]
    intro option inOrder
    exact ⟨.parameter (read option inOrder), fun inline => by cases inline⟩
  · intro pair member
    have name := (built.names_stored perm assign).mem_iff.mp (List.mem_map_of_mem member)
    obtain ⟨parameter, declared, equal⟩ := List.mem_map.mp name
    exact equal ▸ (free parameter declared).reserved
  · rw [Slots.erase_of_notMem noSurplus, Command.missing_eq_nil_iff]
    intro option declared
    refine (Slots.contains_iff _ _).mpr (.inr ?_)
    exact List.mem_map_of_mem (List.mem_map_of_mem (perm.mem_iff.mpr declared))

/-- **The call has what is stored.** -/
theorem IsBuilt.call_stored :
    runner.command.call (Slots.erase ⟨order.map (ParameterOption.stored assign)⟩ surplusSlot) =
      ⟨entry.parameters.map fun parameter => (parameter.name, assign parameter.name),
        .text settings.defaultSimulator⟩ := by
  have noSurplus := built.notMem_stored perm assign fun parameter member =>
    (free parameter member).surplus
  have noSimulator := built.notMem_stored perm assign fun parameter member =>
    (free parameter member).simulator
  rw [Slots.erase_of_notMem noSurplus, Command.call, Slots.get?,
    lookup_eq_none_iff_notMem.mpr noSimulator, built.default, ← built.schema.parameters,
    List.map_map]
  refine congrArg (Call.mk · _) (List.map_congr_left fun option declared => ?_)
  have found : Slots.get? ⟨order.map (ParameterOption.stored assign)⟩ option.parameter.name =
      some (assign option.parameter.name) :=
    (lookup_eq_some_iff_mem (built.nodup_stored perm assign)).mpr
      (List.mem_map_of_mem (perm.mem_iff.mpr declared))
  rw [Slots.get, found]
  rfl

end Stored

variable [Monad m]

/-- **Reading a command line undoes writing it.** Every value that its type allows is spelled as
tokens, and if none of them is read as an option, as no token of a value without text is, then the
options may stand in any order, each under any of its flags. -/
theorem parse_spelled (made : ofEntry entry settings simulators = .ok runner)
    (free : ∀ parameter ∈ entry.parameters, parameter.IsFree) (assign : String → Value)
    (typed : ∀ parameter ∈ entry.parameters, (assign parameter.name).HasType parameter.type) :
    (∀ option ∈ runner.command.schema.parameters, ∃ tokens,
      Value.spell option.parameter.type (assign option.parameter.name) = .ok tokens ∧
        (option.parameter.type.involvesText = false →
          ∀ token ∈ tokens, CommandLine.IsArgument runner.command.schema.table token)) ∧
    ∀ tokensOf : ParameterOption → List String,
      (∀ option ∈ runner.command.schema.parameters,
        Value.spell option.parameter.type (assign option.parameter.name) = .ok (tokensOf option) ∧
          ∀ token ∈ tokensOf option, CommandLine.IsArgument runner.command.schema.table token) →
      ∀ order : List ParameterOption, order.Perm runner.command.schema.parameters →
      ∀ flagOf : ParameterOption → String,
        (∀ option ∈ runner.command.schema.parameters, flagOf option ∈ option.flags) →
        runner.command.parse (order.flatMap fun option => flagOf option :: tokensOf option) =
          .ok ⟨entry.parameters.map fun parameter => (parameter.name, assign parameter.name),
            .text settings.defaultSimulator⟩ := by
  have built := isBuilt_of_ofEntry made
  have member {option : ParameterOption} (declared : option ∈ runner.command.schema.parameters) :
      option.parameter ∈ entry.parameters :=
    built.schema.parameters ▸ List.mem_map_of_mem declared
  constructor
  · intro option declared
    have flat := (built.schema.isNamed option declared).flat
    obtain ⟨tokens, written, _⟩ := Value.exists_spell (typed _ (member declared)) flat
    refine ⟨tokens, written, fun noText token inTokens => built.schema.isArgument ?_⟩
    exact Value.not_isOptionLike_of_spell (typed _ (member declared)) flat noText written token
      inTokens
  · intro tokensOf written order perm flagOf flags
    have declared : ∀ option ∈ order, option ∈ runner.command.schema.parameters :=
      fun option => perm.mem_iff.mp
    have read : ∀ option ∈ order, Value.ofTokens option.parameter.type (tokensOf option) =
        .ok (assign option.parameter.name) := by
      intro option inOrder
      obtain ⟨tokens, spelled, read⟩ := Value.exists_spell (typed _ (member (declared _ inOrder)))
        (built.schema.isNamed option (declared _ inOrder)).flat
      rw [(written option (declared _ inOrder)).1] at spelled
      cases spelled
      exact read
    have spells := built.schema.spells_segments declared
      (fun option inOrder => flags option (declared _ inOrder))
      (fun option inOrder => (written option (declared _ inOrder)).2)
    exact (Command.parse_eq_ok_iff _ _).mpr ⟨_, _, spells,
      built.accepts_segments perm assign free read, (built.call_stored perm assign free).symm⟩

theorem parse_spelled_coins :
    coins.command.parse ["-f", "False", "--coin-count", "-3"] =
      .ok ⟨[("coinCount", .int (-3)), ("fair", .bool false)], .text "local"⟩ := by
  let assign (name : String) : Value := if name = "fair" then .bool false else .int (-3)
  let tokensOf (option : ParameterOption) : List String :=
    if option.parameter.name = "fair" then ["False"] else ["-3"]
  let flagOf (option : ParameterOption) : String :=
    if option.parameter.name = "fair" then "-f" else "--coin-count"
  have typed : ∀ parameter ∈ Entry.coins.parameters,
      (assign parameter.name).HasType parameter.type := by
    simp only [Entry.coins, List.forall_mem_cons, List.not_mem_nil, false_imp_iff, implies_true,
      and_true]
    exact ⟨.int ⟨-3, by decide, by decide⟩, .bool false⟩
  have spelled := parse_spelled ofEntry_coins Entry.isFree_coins assign typed
  refine spelled.2 tokensOf ?_ [coins.command.schema.parameters[1],
    coins.command.schema.parameters[0]] (.swap _ _ _) flagOf ?_
  · simp only [coins, List.forall_mem_cons, List.not_mem_nil, false_imp_iff, implies_true,
      and_true]
    refine ⟨⟨?_, ?_⟩, ?_, ?_⟩
    · have digits : String.ofList (integerChars (-3)) = "-3" := by decide
      have written : Value.token (.scalar .int) (.int (-3)) =
          .ok (String.ofList (integerChars (-3))) := Value.token_int ⟨-3, by decide, by decide⟩
      rw [digits] at written
      show (Value.token (.scalar .int) (.int (-3))).map (fun text => [text]) = .ok ["-3"]
      rw [written]
      rfl
    · intro token member
      obtain rfl := List.mem_singleton.mp member
      exact ⟨by decide, by rfl⟩
    · rfl
    · intro token member
      obtain rfl := List.mem_singleton.mp member
      exact ⟨by decide, by rfl⟩
  · decide

end Runner

end Argline
