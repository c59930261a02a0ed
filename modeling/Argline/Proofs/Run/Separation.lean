/-
**Slots that are kept apart.**

The values of parameters and the simulator are stored by name in one place. They do not get into each
other's way as long as no parameter bears a name that the store uses itself.

* `Target.HasOwnSlot`: an option that stores its value in a slot of its own;
* `Runner.Separates`: what an option has to be given for, and what it is not refused for;
* `Runner.separates`: on every command line the slots of every runner are kept apart in this way;
* `Runner.slots_shared`: what becomes of parameters that share a slot.
-/

import Argline.Proofs.CommandLine.Scan
import Argline.Proofs.Run.Accounting
import Argline.Proofs.Value.Misreading

namespace Argline

/-- An option that stores its value in a slot of its own: a parameter that bears no name of the store
and not that of the simulator's slot, or a built-in option where no parameter bears that name. -/
def Target.HasOwnSlot (parameters : List Parameter) : Target → Prop
  | .parameter option =>
    option.parameter.name ∉ reservedNames ∧ option.parameter.name ≠ simulatorSlot
  | .builtin _ => ∀ parameter ∈ parameters, parameter.name ≠ simulatorSlot

theorem Target.HasOwnSlot.slot_notMem {parameters : List Parameter} {target : Target}
    (own : target.HasOwnSlot parameters) : target.slot ∉ reservedNames := by
  cases target with
  | parameter option => exact own.1
  | builtin option =>
    have free : simulatorSlot ∉ reservedNames := by decide
    exact free

namespace CommandLine

variable {table : List (String × Target)} {tokens : List String}

/-- An option that stands in a segment is given. -/
theorem occurrences_pos {target : Target} :
    0 < occurrences table tokens target ↔
      ∃ segment ∈ (ofTokens table tokens).segments, segment.mark.target = target := by
  rw [occurrences, List.countP_pos_iff, ← map_mark_segments]
  simp

/-- An option that stands in two segments is given twice. -/
theorem two_le_occurrences {front back : List Segment} {segment other : Segment}
    (cut : (ofTokens table tokens).segments = front ++ segment :: back) (earlier : other ∈ front)
    (same : other.mark.target = segment.mark.target) :
    2 ≤ occurrences table tokens segment.mark.target := by
  have before : 0 < (front.map Segment.mark).countP (·.target = segment.mark.target) :=
    List.countP_pos_iff.mpr ⟨_, List.mem_map_of_mem earlier, by simpa using same⟩
  rw [occurrences, ← map_mark_segments, cut, List.map_append, List.map_cons, List.countP_append,
    List.countP_cons_of_pos (by simp)]
  omega

end CommandLine

namespace Runner

variable {m : Type → Type}

/-- What the slots of a runner are kept apart for, on one command line. -/
structure Separates (runner : Runner m) (entry : Entry m) (settings : Settings)
    (tokens : List String) : Prop where
  /-- No parameter has a value unless its option is given. -/
  given : ∀ call, runner.command.parse tokens = .ok call →
    ∀ option ∈ runner.command.schema.parameters,
      Target.HasOwnSlot entry.parameters (.parameter option) →
        0 < CommandLine.occurrences runner.command.schema.table tokens (.parameter option)
  /-- No option is refused as repeated that is given once. -/
  once : ∀ target ∈ runner.command.schema.targets, target.HasOwnSlot entry.parameters →
    CommandLine.occurrences runner.command.schema.table tokens target = 1 →
      ∀ flag ∈ target.flags,
        runner.command.parse tokens ≠ .error (.refused (.rejected (.repeated flag)))
  /-- The simulator is a registered one, and the default one unless its option is given. -/
  simulator : (∀ parameter ∈ entry.parameters, parameter.name ≠ simulatorSlot) →
    ∀ call, runner.command.parse tokens = .ok call →
      ∃ name simulator, call.simulator = .text name ∧
        runner.simulator call.simulator = .ok (name, simulator) ∧
        (name ≠ settings.defaultSimulator →
          ∃ mark ∈ CommandLine.marks runner.command.schema.table tokens,
            mark.target.builtin? = some Builtin.simulator)
  /-- No text is refused as unrecognized that is not on the command line. -/
  unrecognized : (∀ parameter ∈ entry.parameters, parameter.name ≠ surplusSlot) →
    ∀ shown advice,
      runner.command.parse tokens = .error (.refused (.rejected (.unrecognized shown advice))) →
        shown ⊆ CommandLine.texts runner.command.schema.table tokens
  /-- No parameter is missing whose option is given. -/
  missing : ∀ flags advice,
    runner.command.parse tokens = .error (.refused (.rejected (.missingOptions flags advice))) →
      ∀ option ∈ runner.command.schema.parameters, option.parameter.name ≠ surplusSlot →
        longFlag option.names.long ∈ flags →
          CommandLine.occurrences runner.command.schema.table tokens (.parameter option) = 0

section Proof

variable {entry : Entry m} {settings : Settings} {simulators : List (String × Simulator m)}
  {runner : Runner m} (built : runner.IsBuilt entry settings simulators)

include built

/-- The name of a parameter tells its option. -/
theorem IsBuilt.eq_of_name {option other : ParameterOption}
    (member : option ∈ runner.command.schema.parameters)
    (otherMember : other ∈ runner.command.schema.parameters)
    (same : option.parameter.name = other.parameter.name) : option = other := by
  have distinct := built.schema.nodup_names
  rw [← built.schema.parameters, List.map_map] at distinct
  exact List.inj_on_of_nodup_map distinct member otherMember same

/-- A registered simulator is found. -/
theorem IsBuilt.exists_simulator {name : String} (registered : name ∈ runner.command.simulators) :
    ∃ simulator, runner.simulator (.text name) = .ok (name, simulator) := by
  cases found : runner.simulators.lookup name with
  | none => exact absurd (built.names ▸ registered) (lookup_eq_none_iff_notMem.mp found)
  | some simulator => exact ⟨simulator, simulator_eq_ok_iff.mpr ⟨rfl, found⟩⟩

variable {tokens : List String}

/-- The segments of a command line stand for options of the schema. -/
theorem IsBuilt.mem_targets {segment : Segment}
    (member : segment ∈ (CommandLine.ofTokens runner.command.schema.table tokens).segments) :
    segment.mark.target ∈ runner.command.schema.targets ∧
      segment.mark.flag ∈ segment.mark.target.flags :=
  (built.schema.lookup_eq_some_iff _ _).mp (CommandLine.lookup_of_mem member)

/-- The long name of a parameter tells its option. -/
theorem IsBuilt.eq_of_long {option other : ParameterOption}
    (member : option ∈ runner.command.schema.parameters)
    (otherMember : other ∈ runner.command.schema.parameters)
    (same : option.names.long = other.names.long) : option = other := by
  have one : runner.command.schema.table.lookup (longFlag option.names.long) = _ :=
    built.schema.lookup_of_parameter member (.head _)
  have two := built.schema.lookup_of_parameter otherMember (.head _)
  rw [same, two] at one
  exact (Target.parameter.inj (Option.some.inj one)).symm

/-- Without a parameter of that name no option stores its value in the surplus slot. -/
theorem IsBuilt.slot_ne_surplus
    (absent : ∀ parameter ∈ entry.parameters, parameter.name ≠ surplusSlot) {target : Target}
    (inTargets : target ∈ runner.command.schema.targets) : target.slot ≠ surplusSlot := by
  cases target with
  | parameter option =>
    exact absent _ (built.mem_parameters ((Schema.parameter_mem_targets_iff _).mp inTargets))
  | builtin option =>
    have apart : simulatorSlot ≠ surplusSlot := by decide
    exact apart

variable (standard : runner.command.schema.builtins.map BuiltinOption.builtin = Builtin.standard)

include standard

/-- **No two options store their values in the slot that one of them has for its own.** -/
theorem IsBuilt.target_eq_of_slot {target other : Target}
    (inTargets : target ∈ runner.command.schema.targets)
    (otherIn : other ∈ runner.command.schema.targets) (own : target.HasOwnSlot entry.parameters)
    (takes : target.arity.isSome = true) (otherTakes : other.arity.isSome = true)
    (same : other.slot = target.slot) : other = target := by
  cases target with
  | parameter option =>
    cases other with
    | parameter option' =>
      exact congrArg Target.parameter (built.eq_of_name
        ((Schema.parameter_mem_targets_iff _).mp otherIn)
        ((Schema.parameter_mem_targets_iff _).mp inTargets) same)
    | builtin option' => exact absurd same.symm own.2
  | builtin option =>
    have inBuiltins := (Schema.builtin_mem_targets_iff _).mp inTargets
    cases other with
    | parameter option' =>
      refine absurd same (own _ (built.mem_parameters ?_))
      exact (Schema.parameter_mem_targets_iff _).mp otherIn
    | builtin option' =>
      have otherBuiltin := (Schema.builtin_mem_targets_iff _).mp otherIn
      have one := built.eq_simulator inBuiltins (takesValue_of_arity takes)
      have two := built.eq_simulator otherBuiltin (takesValue_of_arity otherTakes)
      have distinct : (runner.command.schema.builtins.map BuiltinOption.builtin).Nodup :=
        standard ▸ by decide
      exact congrArg Target.builtin
        (List.inj_on_of_nodup_map distinct otherBuiltin inBuiltins (two.trans one.symm))

/-- **A value is stored for a parameter exactly if its option is given.** -/
theorem IsBuilt.stored_iff_given {entries : List (String × Value)}
    (served : List.Forall₂ runner.command.Serves
      (CommandLine.ofTokens runner.command.schema.table tokens).segments entries)
    {option : ParameterOption} (declared : option ∈ runner.command.schema.parameters)
    (own : Target.HasOwnSlot entry.parameters (.parameter option)) :
    Slots.contains ⟨entries⟩ option.parameter.name = true ↔
      0 < CommandLine.occurrences runner.command.schema.table tokens (.parameter option) := by
  rw [CommandLine.occurrences_pos]
  constructor
  · intro taken
    rcases Command.exists_of_contains served taken with reserved | ⟨segment, member, takes, same⟩
    · exact absurd reserved own.1
    · exact ⟨segment, member, built.target_eq_of_slot standard
        ((Schema.parameter_mem_targets_iff _).mpr declared) (built.mem_targets member).1 own rfl takes
        same⟩
  · rintro ⟨segment, member, stands⟩
    obtain ⟨stored, inEntries, serves⟩ := exists_mem_of_forall₂ served member
    have slot : option.parameter.name = stored.1 := by
      rw [← serves.slot, stands]
      rfl
    exact (Slots.contains_iff _ _).mpr (.inr (slot ▸ List.mem_map_of_mem inEntries))

/-- **No parameter has a value unless its option is given.** -/
theorem IsBuilt.occurrences_pos_of_parse {call : Call}
    (parsed : runner.command.parse tokens = .ok call) {option : ParameterOption}
    (declared : option ∈ runner.command.schema.parameters)
    (own : Target.HasOwnSlot entry.parameters (.parameter option)) :
    0 < CommandLine.occurrences runner.command.schema.table tokens (.parameter option) := by
  obtain ⟨entries, served, present, _⟩ := Command.exists_serves_of_parse parsed
  have taken := (Command.missing_eq_nil_iff _).mp present option declared
  exact (built.stored_iff_given standard served declared own).mp (Slots.contains_of_erase taken)

/-- **No option is refused as repeated that is given once.** -/
theorem IsBuilt.ne_repeated {target : Target} (inTargets : target ∈ runner.command.schema.targets)
    (own : target.HasOwnSlot entry.parameters)
    (once : CommandLine.occurrences runner.command.schema.table tokens target = 1) {flag : String}
    (flags : flag ∈ target.flags) :
    runner.command.parse tokens ≠ .error (.refused (.rejected (.repeated flag))) := by
  intro refused
  cases Command.declines_of_parse refused with
  | @repeated front back segment entries cut served takes taken =>
    have inSegments : segment ∈ (CommandLine.ofTokens runner.command.schema.table tokens).segments :=
      cut ▸ List.mem_append_right _ List.mem_cons_self
    have found := (built.schema.lookup_eq_some_iff _ _).mpr ⟨inTargets, flags⟩
    obtain rfl : segment.mark.target = target :=
      Option.some.inj ((CommandLine.lookup_of_mem inSegments).symm.trans found)
    rcases Command.exists_of_contains served taken with reserved | ⟨other, earlier, takes', slot⟩
    · exact own.slot_notMem reserved
    · have inTargets' := (built.mem_targets (cut ▸ List.mem_append_left _ earlier)).1
      have same := built.target_eq_of_slot standard inTargets inTargets' own takes takes' slot
      have twice := CommandLine.two_le_occurrences cut earlier same
      omega
  | unread member stands gives unread => cases Value.misread_of_ofTokens unread

omit built standard in
/-- Without a parameter of that name nothing is stored in the surplus slot. -/
theorem surplus_notMem_of_serves {segments : List Segment} {entries : List (String × Value)}
    (served : List.Forall₂ runner.command.Serves segments entries)
    (absent : ∀ segment ∈ segments, segment.mark.target.slot ≠ surplusSlot) :
    surplusSlot ∉ entries.map Prod.fst := by
  rw [List.mem_map]
  rintro ⟨stored, member, same⟩
  obtain ⟨segment, inSegments, serves⟩ := Command.exists_serves_of_mem served member
  exact absent segment inSegments (serves.slot.trans same)

omit standard in
/-- **No text is refused as unrecognized that is not on the command line.** -/
theorem IsBuilt.unrecognized_subset
    (absent : ∀ parameter ∈ entry.parameters, parameter.name ≠ surplusSlot) {shown : List String}
    {advice : Option String}
    (refused : runner.command.parse tokens =
      .error (.refused (.rejected (.unrecognized shown advice)))) :
    shown ⊆ CommandLine.texts runner.command.schema.table tokens := by
  cases Command.declines_of_parse refused with
  | unread member stands gives unread =>
    cases Value.misread_of_ofTokens unread with
    | left inside =>
      intro text inShown
      exact CommandLine.texts_subset_of_mem member (gives.subset (inside inShown))
  | @unrecognized slots left surplus texts scanned taken shown =>
    obtain ⟨entries, served, rfl, leftover⟩ := Command.exists_serves_of_scan scanned
    have none : surplusSlot ∉ entries.map Prod.fst :=
      surplus_notMem_of_serves served fun segment member =>
        built.slot_ne_surplus absent (built.mem_targets member).1
    rw [Slots.surplus_of_notMem none] at taken
    cases taken
    cases shown
    rw [List.append_nil]
    exact List.Subset.trans leftover (List.subset_append_left _ _)

omit standard in
/-- **No parameter is missing whose option is given.** -/
theorem IsBuilt.occurrences_eq_zero_of_missing {flags : List String} {advice : Option String}
    (refused : runner.command.parse tokens =
      .error (.refused (.rejected (.missingOptions flags advice))))
    {option : ParameterOption} (declared : option ∈ runner.command.schema.parameters)
    (apart : option.parameter.name ≠ surplusSlot) (listed : longFlag option.names.long ∈ flags) :
    CommandLine.occurrences runner.command.schema.table tokens (.parameter option) = 0 := by
  cases Command.declines_of_parse refused with
  | unread member stands gives unread => cases Value.misread_of_ofTokens unread
  | @missing slots left scanned =>
    obtain ⟨entries, served, rfl, _⟩ := Command.exists_serves_of_scan scanned
    obtain ⟨other, unstored, same⟩ := List.mem_map.mp listed
    obtain ⟨declared', free⟩ := List.mem_filter.mp unstored
    obtain rfl : other = option := built.eq_of_long declared' declared (Names.longFlag_inj.mp same)
    by_contra given
    obtain ⟨segment, inSegments, stands⟩ :=
      CommandLine.occurrences_pos.mp (Nat.pos_of_ne_zero given)
    obtain ⟨stored, member, serves⟩ := exists_mem_of_forall₂ served inSegments
    have slot : other.parameter.name = stored.1 := by
      rw [← serves.slot, stands]
      rfl
    have taken : (Slots.erase ⟨entries⟩ surplusSlot).contains other.parameter.name = true := by
      rw [Slots.contains_iff, slot]
      refine .inr (List.mem_map_of_mem (List.mem_filter.mpr ⟨member, ?_⟩))
      simpa [← slot] using apart
    simp [taken] at free

omit standard in
/-- **The simulator is a registered one**, and the default one unless its option is given. -/
theorem IsBuilt.simulator_of_parse
    (absent : ∀ parameter ∈ entry.parameters, parameter.name ≠ simulatorSlot) {call : Call}
    (parsed : runner.command.parse tokens = .ok call) :
    ∃ name simulator, call.simulator = .text name ∧
      runner.simulator call.simulator = .ok (name, simulator) ∧
      (name ≠ settings.defaultSimulator →
        ∃ mark ∈ CommandLine.marks runner.command.schema.table tokens,
          mark.target.builtin? = some Builtin.simulator) := by
  obtain ⟨entries, served, _, rfl⟩ := Command.exists_serves_of_parse parsed
  cases stored : (Slots.erase ⟨entries⟩ surplusSlot).get? simulatorSlot with
  | none =>
    have chosen : (runner.command.call (Slots.erase ⟨entries⟩ surplusSlot)).simulator =
        .text settings.defaultSimulator := by
      rw [Command.call, stored, built.default]
      rfl
    obtain ⟨simulator, found⟩ := built.exists_simulator built.registered
    exact ⟨_, simulator, chosen, chosen ▸ found, fun other => absurd rfl other⟩
  | some value =>
    obtain ⟨segment, inSegments, taken, left, _, stores⟩ :=
      Command.exists_serves_of_get? served stored
    have inTargets := (built.mem_targets inSegments).1
    cases target : segment.mark.target with
    | parameter option =>
      rw [target] at stores inTargets
      have declared := (Schema.parameter_mem_targets_iff _).mp inTargets
      exact absurd stores.slot.symm (absent _ (built.mem_parameters declared))
    | builtin option =>
      rw [target] at stores inTargets
      cases stores with
      | simulator takes selected =>
        obtain ⟨name, _, registered, rfl⟩ := (Command.selectSimulator_eq_ok_iff _ _).mp selected
        have chosen : (runner.command.call (Slots.erase ⟨entries⟩ surplusSlot)).simulator =
            .text name := by
          rw [Command.call, stored]
          rfl
        have declared := (Schema.builtin_mem_targets_iff _).mp inTargets
        obtain ⟨simulator, found⟩ := built.exists_simulator registered
        refine ⟨name, simulator, chosen, chosen ▸ found, fun _ => ?_⟩
        refine ⟨segment.mark, CommandLine.mark_mem_marks inSegments, ?_⟩
        rw [target]
        exact congrArg some (built.eq_simulator declared takes)

end Proof

variable [Monad m]

/-- **The slots of a runner are kept apart.** -/
theorem separates {entry : Entry m} {settings : Settings} {simulators : List (String × Simulator m)}
    {runner : Runner m} (made : ofEntry entry settings simulators = .ok runner)
    (tokens : List String) : runner.Separates entry settings tokens where
  given _ parsed _ declared own :=
    (isBuilt_of_ofEntry made).occurrences_pos_of_parse (map_builtin_of_ofEntry made) parsed declared own
  once _ inTargets own once _ flags :=
    (isBuilt_of_ofEntry made).ne_repeated (map_builtin_of_ofEntry made) inTargets own once flags
  simulator absent _ parsed := (isBuilt_of_ofEntry made).simulator_of_parse absent parsed
  unrecognized absent _ _ refused := (isBuilt_of_ofEntry made).unrecognized_subset absent refused
  missing _ _ refused _ declared apart listed :=
    (isBuilt_of_ofEntry made).occurrences_eq_zero_of_missing refused declared apart listed

theorem separates_coins :
    coins.Separates .coins {} ["--fair", "-c=3"] ∧
      coins.command.parse ["--fair", "-c=3"] =
        .ok ⟨[("coinCount", .int 3), ("fair", .bool true)], .text "local"⟩ :=
  ⟨separates ofEntry_coins _, rfl⟩

/-- **A parameter that bears a name of the store shares its slot.** It has a value without being given,
or is refused as repeated where it is given once; it takes the place of the simulator; or the
characters of its value are refused as tokens left over. -/
theorem slots_shared :
    (∃ runner, ofEntry (.echo "__doc__" (.scalar .text)) = .ok runner ∧
      runner.command.parse [] =
        .ok ⟨[("__doc__", .text storeDescription)], .text Simulator.inProcessName⟩) ∧
    (∃ runner, ofEntry (.echo "__class__" (.scalar .int)) = .ok runner ∧
      runner.command.parse ["--__class__", "1"] =
        .error (.refused (.rejected (.repeated "--__class__")))) ∧
    (∃ runner, ofEntry (.echo "_builtin_simulator" (.scalar .int)) = .ok runner ∧
      runner.command.parse ["--_builtin_simulator", "1"] =
        .ok ⟨[("_builtin_simulator", .int 1)], .int 1⟩) ∧
    ∃ runner, ofEntry (.echo "_unrecognized_args" (.scalar .text)) = .ok runner ∧
      runner.command.parse ["--_unrecognized_args", "ab"] =
        .error (.refused (.rejected (.unrecognized ["a", "b"] runner.command.advice))) :=
  ⟨⟨_, rfl, rfl⟩, ⟨_, rfl, rfl⟩, ⟨_, rfl, rfl⟩, ⟨_, rfl, rfl⟩⟩

end Runner

end Argline
