/-
**What is refused is named completely.**

If every option on a command line is given the tokens it needs and none is given twice, what is refused
is what strays and what is missing.

* `Command.Orderly`: a command line whose options are all carried out, each once;
* `Command.parse_of_scan`: what decides behind the options;
* `Command.Advises`: what the advice to ask for help says, and when there is one;
* `Runner.parse_complete`: all tokens that stray are named, or else all parameters that are missing, in
  their order; or else there is a call.
-/

import Argline.Proofs.CommandLine.Strays
import Argline.Proofs.Run.Separation

namespace Argline

namespace Command

/-! ### Command lines in order -/

/-- A command line on which every option stores the value of its tokens, and none is given twice. No
option on it asks for a text, as such an option stores no value. -/
structure Orderly (command : Command) (tokens : List String) : Prop where
  served : ∀ segment ∈ (CommandLine.ofTokens command.schema.table tokens).segments,
    ∃ entry, command.Serves segment entry
  once : ∀ target, CommandLine.occurrences command.schema.table tokens target ≤ 1

/-- The parameters' options that are not given on a command line, in the order of declaration. -/
def ungiven (command : Command) (tokens : List String) : List ParameterOption :=
  command.schema.parameters.filter fun option =>
    CommandLine.occurrences command.schema.table tokens (.parameter option) = 0

/-! ### The advice -/

/-- The advice names the long flag of the option that asks for help, and there is none if that option is
not offered. -/
structure Advises (command : Command) (option : BuiltinOption) : Prop where
  offered : option ∈ command.schema.builtins
  help : option.builtin = Builtin.help
  advice : command.advice = option.names.map fun names =>
    s!"Run with {longFlag names.long} to list the available options."

/-- There is an option that asks for help, and the advice is about it. -/
theorem exists_advises {command : Command}
    (standard : command.schema.builtins.map BuiltinOption.builtin = Builtin.standard) :
    ∃ option, command.Advises option := by
  obtain ⟨option, rest, builtins, help, _⟩ := List.map_eq_cons_iff.mp standard
  have found : command.schema.builtin? Builtin.helpKey = some option := by
    rw [Schema.builtin?, builtins]
    exact List.find?_cons_of_pos (by rw [help]; rfl)
  refine ⟨option, builtins ▸ List.mem_cons_self, help, ?_⟩
  obtain ⟨builtin, names⟩ := option
  rw [advice, found]
  cases names <;> rfl

/-! ### What decides -/

/-- **Behind the options, the tokens left over decide**, and then the parameters without a value. -/
theorem parse_of_scan {command : Command} {tokens left : List String}
    {entries : List (String × Value)} (scanned : command.scan tokens = .ok (⟨entries⟩, left))
    (absent : surplusSlot ∉ entries.map Prod.fst) :
    command.parse tokens =
      if left ≠ [] then reject (.unrecognized left command.advice)
      else if command.missing ⟨entries⟩ ≠ [] then
        reject (.missingOptions (command.missing ⟨entries⟩) command.advice)
      else .ok (command.call ⟨entries⟩) := by
  have surplus : Slots.surplus ⟨entries⟩ = .ok [] := Slots.surplus_of_notMem absent
  have kept : Slots.erase ⟨entries⟩ surplusSlot = ⟨entries⟩ := Slots.erase_of_notMem absent
  simp only [parse, scanned, surplus, kept, orBreak, bind, Except.bind, pure, Except.pure]
  cases left with
  | nil =>
    cases missing : command.missing ⟨entries⟩ <;> rfl
  | cons token rest => simp [textsFrom]

/-- What segments store stands in the slots of their options. -/
theorem map_fst_of_serves {command : Command} {segments : List Segment}
    {entries : List (String × Value)} (served : List.Forall₂ command.Serves segments entries) :
    entries.map Prod.fst = segments.map fun segment => segment.mark.target.slot := by
  induction served with
  | nil => rfl
  | cons serves _ ih => rw [List.map_cons, List.map_cons, ih, serves.slot]

end Command

/-! ### Runners -/

namespace Runner

variable {m : Type → Type}

section Proof

variable {entry : Entry m} {settings : Settings} {simulators : List (String × Simulator m)}
  {runner : Runner m} (built : runner.IsBuilt entry settings simulators)
  (free : ∀ parameter ∈ entry.parameters, parameter.IsFree)

include built free

/-- If no parameter bears a name of the store, every option has a slot of its own. -/
theorem IsBuilt.hasOwnSlot {target : Target} (inTargets : target ∈ runner.command.schema.targets) :
    target.HasOwnSlot entry.parameters := by
  cases target with
  | parameter option =>
    have declared := built.mem_parameters ((Schema.parameter_mem_targets_iff _).mp inTargets)
    exact ⟨(free _ declared).reserved, (free _ declared).simulator⟩
  | builtin option => exact fun parameter declared => (free parameter declared).simulator

variable (standard : runner.command.schema.builtins.map BuiltinOption.builtin = Builtin.standard)
  {tokens : List String} {entries : List (String × Value)}
  (served : List.Forall₂ runner.command.Serves
    (CommandLine.ofTokens runner.command.schema.table tokens).segments entries)

include standard served

/-- The segments of a command line store their values in slots of their own, if no option is given
twice. -/
theorem IsBuilt.nodup_slots
    (once : ∀ target, CommandLine.occurrences runner.command.schema.table tokens target ≤ 1) :
    (entries.map Prod.fst).Nodup := by
  have takes : ∀ segment ∈ (CommandLine.ofTokens runner.command.schema.table tokens).segments,
      segment.mark.target.arity.isSome = true :=
    forall_mem_of_forall₂ served fun _ _ serves => serves.arity
  have distinct := CommandLine.nodup_targets_iff.mpr once
  rw [Command.map_fst_of_serves served, ← Function.comp_def Target.slot, ← List.map_map]
  refine List.Nodup.map_on ?_ distinct
  intro first inFirst second inSecond same
  obtain ⟨one, member, rfl⟩ := List.mem_map.mp inFirst
  obtain ⟨other, member', rfl⟩ := List.mem_map.mp inSecond
  have inTargets := (built.mem_targets member').1
  exact built.target_eq_of_slot standard inTargets (built.mem_targets member).1
    (built.hasOwnSlot free inTargets) (takes other member') (takes one member) same

/-- **The parameters without a value are those whose option is not given.** -/
theorem IsBuilt.missing_eq_ungiven :
    runner.command.missing ⟨entries⟩ =
      (runner.command.ungiven tokens).map fun option => longFlag option.names.long := by
  refine congrArg (List.map _) (List.filter_congr fun option declared => ?_)
  have own := built.hasOwnSlot free ((Schema.parameter_mem_targets_iff option).mpr declared)
  rw [Bool.eq_iff_iff, Bool.not_eq_true', ← Bool.not_eq_true,
    built.stored_iff_given standard served declared own, decide_eq_true_eq]
  omega

end Proof

variable [Monad m]

/-- **What is refused is named completely.** If every option on a command line is carried out and none
is given twice, all tokens that stray are named, in their order; if none strays, the long flags of all
parameters whose options are not given, in the order of declaration; and if none is missing, there is a
call. Both refusals bear the advice to ask for help exactly if help is offered. -/
theorem parse_complete {entry : Entry m} {settings : Settings}
    {simulators : List (String × Simulator m)} {runner : Runner m}
    (made : ofEntry entry settings simulators = .ok runner)
    (free : ∀ parameter ∈ entry.parameters, parameter.IsFree) {tokens : List String}
    (orderly : runner.command.Orderly tokens) :
    (CommandLine.strays runner.command.schema.table none tokens ≠ [] →
      runner.command.parse tokens = reject (.unrecognized
        (CommandLine.strays runner.command.schema.table none tokens) runner.command.advice)) ∧
    (CommandLine.strays runner.command.schema.table none tokens = [] →
      runner.command.ungiven tokens ≠ [] →
        runner.command.parse tokens = reject (.missingOptions
          ((runner.command.ungiven tokens).map fun option => longFlag option.names.long)
          runner.command.advice)) ∧
    (CommandLine.strays runner.command.schema.table none tokens = [] →
      runner.command.ungiven tokens = [] → ∃ call, runner.command.parse tokens = .ok call) ∧
    runner.command.schema.parameters.map ParameterOption.parameter = entry.parameters ∧
    ∃ option, runner.command.Advises option := by
  have built := isBuilt_of_ofEntry made
  have standard := map_builtin_of_ofEntry made
  obtain ⟨entries, served⟩ := exists_forall₂ orderly.served
  have unreserved : ∀ stored ∈ entries, stored.1 ∉ reservedNames := by
    intro stored member
    obtain ⟨segment, inSegments, serves⟩ := Command.exists_serves_of_mem served member
    rw [← serves.slot]
    exact (built.hasOwnSlot free (built.mem_targets inSegments).1).slot_notMem
  have absent : surplusSlot ∉ entries.map Prod.fst :=
    surplus_notMem_of_serves served fun segment member => built.slot_ne_surplus
      (fun parameter declared => (free parameter declared).surplus) (built.mem_targets member).1
  have distinct := built.nodup_slots free standard served orderly.once
  have decided :=
    Command.parse_of_scan (Command.scan_of_serves served distinct unreserved) absent
  rw [built.missing_eq_ungiven free standard served] at decided
  refine ⟨fun strays => ?_, fun none ungiven => ?_, fun none ungiven => ?_, built.schema.parameters,
    Command.exists_advises standard⟩
  · rw [decided, if_pos strays]
  · have missing : (runner.command.ungiven tokens).map
        (fun option => longFlag option.names.long) ≠ [] := by
      simpa using ungiven
    rw [decided, if_neg (not_not.mpr none), if_pos missing]
  · have present : (runner.command.ungiven tokens).map
        (fun option => longFlag option.names.long) = [] := by
      rw [ungiven, List.map_nil]
    rw [decided, if_neg (not_not.mpr none), if_neg (not_not.mpr present)]
    exact ⟨_, rfl⟩

theorem parse_complete_coins :
    coins.command.parse ["x", "-c", "3", "4", "--fair", "--", "-c"] =
        reject (.unrecognized ["x", "4", "--", "-c"]
          (some "Run with --help to list the available options.")) ∧
      coins.command.parse ["-f"] =
        reject (.missingOptions ["--coin-count"]
          (some "Run with --help to list the available options.")) ∧
      ∃ call, coins.command.parse ["-c", "3", "-f"] = .ok call := by
  have counts (flag : String) (rest : List String) :
      coins.command.Serves
        ⟨⟨flag, .parameter coins.command.schema.parameters[0], none⟩, "3" :: rest⟩
        ("coinCount", .int 3) :=
    ⟨["3"], rest, rfl, .parameter rfl⟩
  have fair (flag : String) :
      coins.command.Serves ⟨⟨flag, .parameter coins.command.schema.parameters[1], none⟩, []⟩
        ("fair", .bool true) :=
    ⟨[], [], rfl, .parameter rfl⟩
  have strays : coins.command.Orderly ["x", "-c", "3", "4", "--fair", "--", "-c"] := by
    refine ⟨?_, CommandLine.nodup_targets_iff.mp (by decide)⟩
    rintro segment (_ | ⟨_, _ | ⟨_, _ | _⟩⟩)
    · exact ⟨_, counts "-c" ["4"]⟩
    · exact ⟨_, fair "--fair"⟩
  have misses : coins.command.Orderly ["-f"] := by
    refine ⟨?_, CommandLine.nodup_targets_iff.mp (by decide)⟩
    rintro segment (_ | ⟨_, _ | _⟩)
    exact ⟨_, fair "-f"⟩
  have complete : coins.command.Orderly ["-c", "3", "-f"] := by
    refine ⟨?_, CommandLine.nodup_targets_iff.mp (by decide)⟩
    rintro segment (_ | ⟨_, _ | ⟨_, _ | _⟩⟩)
    · exact ⟨_, counts "-c" []⟩
    · exact ⟨_, fair "-f"⟩
  exact ⟨(parse_complete ofEntry_coins Entry.isFree_coins strays).1 (by decide),
    (parse_complete ofEntry_coins Entry.isFree_coins misses).2.1 rfl (by decide),
    (parse_complete ofEntry_coins Entry.isFree_coins complete).2.2.1 rfl rfl⟩

end Runner

end Argline
