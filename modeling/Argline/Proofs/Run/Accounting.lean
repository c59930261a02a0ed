/-
**Every token of an accepted command line is accounted for.**

* `Segment.values`: the tokens that a segment gives its option;
* `Runner.Accounts`: segments that make up a command line, one for each parameter and at most one for
  the simulator, with the call they come to;
* `Runner.accounts_of_parse`: every accepted command line is made up in this way.
-/

import Argline.Proofs.CommandLine.Acceptance
import Argline.Proofs.Run.Built

namespace Argline

namespace Target

/-- The parameter that an option stands for. -/
def parameter? : Target → Option Parameter
  | .parameter option => some option.parameter
  | .builtin _ => none

/-- The built-in that an option stands for. -/
def builtin? : Target → Option Builtin
  | .parameter _ => none
  | .builtin option => some option.builtin

end Target

/-- The tokens that a segment gives its option: the inline argument if there is one, and else those
behind the flag. -/
def Segment.values (segment : Segment) : List String :=
  match segment.mark.inline with
  | none => segment.tokens
  | some argument => [argument]

theorem Segment.given_eq_values {segment : Segment}
    (literal : segment.mark.inline ≠ some CommandLine.terminator) : segment.given = segment.values := by
  obtain ⟨⟨flag, target, inline⟩, tokens⟩ := segment
  cases inline with
  | none => rfl
  | some argument => exact if_neg fun same => literal (congrArg some same)

namespace Command

variable {command : Command} {entries : List (String × Value)} {segments : List Segment}

/-- The option of a parameter stores the value that its tokens are. -/
theorem Stores.read {target : Target} {tokens : List String} {stored : String × Value}
    (stores : command.Stores target tokens stored) {parameter : Parameter}
    (stands : target.parameter? = some parameter) :
    Value.ofTokens parameter.type tokens = .ok stored.2 := by
  cases stores with
  | parameter read =>
    cases stands
    exact read
  | simulator takes selected => cases stands

/-- A built-in option stores the simulator that its token names. -/
theorem Stores.selected {target : Target} {tokens : List String} {stored : String × Value}
    (stores : command.Stores target tokens stored) {builtin : Builtin}
    (stands : target.builtin? = some builtin) :
    command.selectSimulator tokens = .ok stored.2 := by
  cases stores with
  | parameter read => cases stands
  | simulator takes selected => exact selected

section Filter

variable {R : Segment → String × Value → Prop} {p : Segment → Bool} {name : String}
  (settled : List.Forall₂ R segments entries)
  (stands : ∀ segment entry, R segment entry → (p segment = true ↔ entry.1 = name))

include settled stands

/-- The segments that stand for one name settle what is stored under it. -/
theorem forall₂_filter :
    List.Forall₂ R (segments.filter p) (entries.filter fun entry => entry.1 = name) :=
  List.rel_filter (fun segment entry related => by simpa using stands segment entry related) settled

/-- **Of the segments that stand for one name there is the one that settles its slot.** -/
theorem exists_filter_eq_singleton (distinct : (entries.map Prod.fst).Nodup) {value : Value}
    (member : (name, value) ∈ entries) :
    ∃ segment, segments.filter p = [segment] ∧ R segment (name, value) := by
  have kept := forall₂_filter settled stands
  rw [filter_eq_singleton_of_mem distinct member, List.forall₂_cons_right_iff] at kept
  obtain ⟨segment, rest, related, none, equal⟩ := kept
  rw [List.forall₂_nil_right_iff] at none
  exact ⟨segment, equal.trans (congrArg _ none), related⟩

/-- No segment stands for a name under which nothing is stored. -/
theorem filter_eq_nil_of_notMem (absent : name ∉ entries.map Prod.fst) : segments.filter p = [] := by
  have kept := forall₂_filter settled stands
  have none : entries.filter (fun entry => entry.1 = name) = [] := by
    rw [List.filter_eq_nil_iff]
    intro entry inside same
    exact absent (of_decide_eq_true same ▸ List.mem_map_of_mem inside)
  rwa [none, List.forall₂_nil_right_iff] at kept

end Filter

end Command

namespace Runner

variable {m : Type → Type}

/-- Segments that make up a command line and the call it comes to. -/
structure Accounts (runner : Runner m) (entry : Entry m) (settings : Settings)
    (tokens : List String) (segments : List Segment) (call : Call) : Prop where
  /-- The segments are consecutive, and all there is. -/
  spelled : tokens = segments.flatMap Segment.spelling
  unterminated : CommandLine.terminator ∉ tokens
  /-- Each begins with a flag of its option, or with that flag and an inline argument. -/
  marks : ∀ segment ∈ segments, segment.mark.flag ∈ segment.mark.target.flags ∧
    Mark.ofToken? runner.command.schema.table segment.mark.spelling = some segment.mark
  /-- Each goes on with tokens that are not read as options, if not with an inline argument. -/
  behind : ∀ segment ∈ segments,
    (∀ token ∈ segment.tokens, Mark.ofToken? runner.command.schema.table token = none) ∧
      (segment.mark.inline.isSome → segment.tokens = [])
  /-- Each stands for a parameter or selects the simulator. -/
  options : ∀ segment ∈ segments,
    (∃ parameter ∈ entry.parameters, segment.mark.target.parameter? = some parameter) ∨
      segment.mark.target.builtin? = some Builtin.simulator
  /-- The value of a parameter is that of the tokens of the one segment that stands for it. -/
  parameter : ∀ parameter ∈ entry.parameters, ∃ segment value,
    segments.filter (fun segment => segment.mark.target.parameter? = some parameter) = [segment] ∧
      Value.ofTokens parameter.type segment.values = .ok value ∧
      call.arguments.lookup parameter.name = some value
  keys : call.arguments.map Prod.fst = entry.parameters.map Parameter.name
  /-- The simulator is the registered one that its one segment names, or the default. -/
  simulator :
    (∃ segment name, segments.filter
          (fun segment => segment.mark.target.builtin? = some Builtin.simulator) = [segment] ∧
        segment.values = [name] ∧ name ∈ runner.simulators.map Prod.fst ∧
        call.simulator = .text name) ∨
      segments.filter (fun segment => segment.mark.target.builtin? = some Builtin.simulator) = [] ∧
        call.simulator = .text settings.defaultSimulator

section Proof

variable {entry : Entry m} {settings : Settings} {simulators : List (String × Simulator m)}
  {runner : Runner m} (built : runner.IsBuilt entry settings simulators)
  (free : ∀ parameter ∈ entry.parameters, parameter.IsFree)

include built

theorem IsBuilt.exists_option {parameter : Parameter} (member : parameter ∈ entry.parameters) :
    ∃ option ∈ runner.command.schema.parameters, option.parameter = parameter :=
  List.mem_map.mp (built.schema.parameters ▸ member)

theorem IsBuilt.mem_parameters {option : ParameterOption}
    (member : option ∈ runner.command.schema.parameters) : option.parameter ∈ entry.parameters :=
  built.schema.parameters ▸ List.mem_map_of_mem member

/-- Only the simulator option takes a value among the built-in ones. -/
theorem IsBuilt.eq_simulator {option : BuiltinOption}
    (member : option ∈ runner.command.schema.builtins) (takes : option.builtin.takesValue = true) :
    option.builtin = Builtin.simulator := by
  have standard := (built.schema.builtin option member).1
  simp only [Builtin.standard, List.mem_cons, List.not_mem_nil, or_false] at standard
  rcases standard with equal | equal | equal
  · rw [equal] at takes
    cases takes
  · rw [equal] at takes
    cases takes
  · exact equal

include free

/-- What a segment settles tells which parameter it stands for. -/
theorem IsBuilt.parameter?_iff {parameter : Parameter} (member : parameter ∈ entry.parameters)
    {segment : Segment} {stored : String × Value}
    (inTargets : segment.mark.target ∈ runner.command.schema.targets)
    (settles : runner.command.Settles segment stored) :
    segment.mark.target.parameter? = some parameter ↔ stored.1 = parameter.name := by
  obtain ⟨⟨flag, target, inline⟩, tokens⟩ := segment
  obtain ⟨stores, _⟩ := settles
  cases stores with
  | @parameter option _ value read =>
    have declared : option ∈ runner.command.schema.parameters := by
      simpa [Schema.targets] using inTargets
    rw [Target.parameter?, Option.some.injEq]
    constructor
    · rintro rfl
      rfl
    · exact List.inj_on_of_nodup_map built.schema.nodup_names (built.mem_parameters declared) member
  | simulator takes selected =>
    exact iff_of_false (by simp [Target.parameter?]) (free parameter member).simulator.symm

/-- What a segment settles tells whether it selects the simulator. -/
theorem IsBuilt.builtin?_iff {segment : Segment} {stored : String × Value}
    (inTargets : segment.mark.target ∈ runner.command.schema.targets)
    (settles : runner.command.Settles segment stored) :
    segment.mark.target.builtin? = some Builtin.simulator ↔ stored.1 = simulatorSlot := by
  obtain ⟨⟨flag, target, inline⟩, tokens⟩ := segment
  obtain ⟨stores, _⟩ := settles
  cases stores with
  | @parameter option _ value read =>
    have declared : option ∈ runner.command.schema.parameters := by
      simpa [Schema.targets] using inTargets
    exact iff_of_false (by simp [Target.builtin?])
      (free _ (built.mem_parameters declared)).simulator
  | @simulator option _ value takes selected =>
    have declared : option ∈ runner.command.schema.builtins := by
      simpa [Schema.targets] using inTargets
    exact iff_of_true (congrArg some (built.eq_simulator declared takes)) rfl

/-- A segment stores nothing but the values of parameters and the simulator. -/
theorem IsBuilt.option_of_settles {segment : Segment} {stored : String × Value}
    (inTargets : segment.mark.target ∈ runner.command.schema.targets)
    (settles : runner.command.Settles segment stored) :
    (∃ parameter ∈ entry.parameters, segment.mark.target.parameter? = some parameter ∧
        stored.1 = parameter.name) ∨
      segment.mark.target.builtin? = some Builtin.simulator ∧ stored.1 = simulatorSlot := by
  cases target : segment.mark.target with
  | parameter option =>
    have declared : option ∈ runner.command.schema.parameters := by
      simpa [Schema.targets, target] using inTargets
    have member := built.mem_parameters declared
    have stands := (built.parameter?_iff free member inTargets settles).mp (by rw [target]; rfl)
    exact .inl ⟨_, member, rfl, stands⟩
  | builtin option =>
    refine .inr ?_
    rw [← target, and_iff_left_of_imp (built.builtin?_iff free inTargets settles).mp]
    have stores := settles.stores
    rw [target] at stores ⊢
    cases stores with
    | simulator takes selected =>
      refine congrArg some (built.eq_simulator ?_ takes)
      simpa [Schema.targets, target] using inTargets

variable {tokens : List String} {segments : List Segment} {entries : List (String × Value)}
  (spells : CommandLine.Spells runner.command.schema.table segments tokens)
  (accepts : runner.command.Accepts segments entries)

include spells accepts

omit free in
/-- The segments of an accepted command line settle their slots by options of the schema. -/
theorem IsBuilt.settled : List.Forall₂ (fun segment stored =>
    segment.mark.target ∈ runner.command.schema.targets ∧ runner.command.Settles segment stored)
    segments entries := by
  refine (List.forall₂_and_left _ _).mpr ⟨fun segment member => ?_, accepts.settled⟩
  exact ((built.schema.lookup_eq_some_iff _ _).mp (spells.isCut segment member).lookup).1

/-- Nothing is stored in the surplus slot. -/
theorem IsBuilt.surplus_notMem : surplusSlot ∉ entries.map Prod.fst := by
  have apart : ∀ stored ∈ entries, stored.1 ≠ surplusSlot := by
    refine forall_mem_of_forall₂ (built.settled spells accepts).flip ?_
    rintro stored segment ⟨inTargets, settles⟩
    rcases built.option_of_settles free inTargets settles with
      ⟨parameter, member, _, same⟩ | ⟨_, same⟩
    · rw [same]
      exact (free parameter member).surplus
    · rw [same]
      decide
  rw [List.mem_map]
  rintro ⟨stored, member, same⟩
  exact apart stored member same

/-- Something is stored for every parameter. -/
theorem IsBuilt.exists_stored {parameter : Parameter} (member : parameter ∈ entry.parameters) :
    ∃ value, (parameter.name, value) ∈ entries := by
  obtain ⟨option, declared, rfl⟩ := built.exists_option member
  have present := accepts.present
  rw [Slots.erase_of_notMem (built.surplus_notMem free spells accepts),
    Command.missing_eq_nil_iff] at present
  rcases (Slots.contains_iff _ _).mp (present option declared) with reserved | stored
  · exact absurd reserved (free _ member).reserved
  · obtain ⟨⟨_, value⟩, inside, rfl⟩ := List.mem_map.mp stored
    exact ⟨value, inside⟩

/-- **One segment stands for a parameter, and settles its value.** -/
theorem IsBuilt.exists_segment {parameter : Parameter} (member : parameter ∈ entry.parameters) :
    ∃ segment value,
      segments.filter (fun segment => segment.mark.target.parameter? = some parameter) = [segment] ∧
        Value.ofTokens parameter.type segment.given = .ok value ∧
        (parameter.name, value) ∈ entries := by
  obtain ⟨value, stored⟩ := built.exists_stored free spells accepts member
  have stands (segment : Segment) (stored : String × Value)
      (related : segment.mark.target ∈ runner.command.schema.targets ∧
        runner.command.Settles segment stored) :
      decide (segment.mark.target.parameter? = some parameter) = true ↔
        stored.1 = parameter.name := by
    rw [decide_eq_true_eq]
    exact built.parameter?_iff free member related.1 related.2
  obtain ⟨segment, one, _, settles⟩ := Command.exists_filter_eq_singleton
    (built.settled spells accepts) stands accepts.distinct stored
  have only := (List.mem_filter.mp (one ▸ List.mem_singleton_self segment)).2
  exact ⟨segment, value, one, settles.stores.read (of_decide_eq_true only), stored⟩

/-- **One segment selects the simulator, or none does.** -/
theorem IsBuilt.simulator_selected :
    (∃ segment name, segments.filter
          (fun segment => segment.mark.target.builtin? = some Builtin.simulator) = [segment] ∧
        segment.given = [name] ∧ name ∈ runner.command.simulators ∧
        (simulatorSlot, Value.text name) ∈ entries) ∨
      segments.filter (fun segment => segment.mark.target.builtin? = some Builtin.simulator) = [] ∧
        simulatorSlot ∉ entries.map Prod.fst := by
  have settled := built.settled spells accepts
  have stands (segment : Segment) (stored : String × Value)
      (related : segment.mark.target ∈ runner.command.schema.targets ∧
        runner.command.Settles segment stored) :
      decide (segment.mark.target.builtin? = some Builtin.simulator) = true ↔
        stored.1 = simulatorSlot := by
    rw [decide_eq_true_eq]
    exact built.builtin?_iff free related.1 related.2
  by_cases selected : simulatorSlot ∈ entries.map Prod.fst
  · obtain ⟨⟨_, value⟩, stored, rfl⟩ := List.mem_map.mp selected
    obtain ⟨segment, one, _, settles⟩ :=
      Command.exists_filter_eq_singleton settled stands accepts.distinct stored
    have only := (List.mem_filter.mp (one ▸ List.mem_singleton_self segment)).2
    obtain ⟨name, given, registered, rfl⟩ := (Command.selectSimulator_eq_ok_iff _ _).mp
      (settles.stores.selected (of_decide_eq_true only))
    exact .inl ⟨segment, name, one, given, registered, stored⟩
  · exact .inr ⟨Command.filter_eq_nil_of_notMem settled stands selected, selected⟩

end Proof

/-- The keys of a call are the names of the parameters, in their order. -/
theorem IsBuilt.map_fst_arguments {entry : Entry m} {settings : Settings}
    {simulators : List (String × Simulator m)} {runner : Runner m}
    (built : runner.IsBuilt entry settings simulators) (slots : Slots) :
    (runner.command.call slots).arguments.map Prod.fst = entry.parameters.map Parameter.name := by
  simp [Command.call, ← built.schema.parameters, Function.comp_def]

/-- A call has what is stored for a parameter. -/
theorem IsBuilt.lookup_arguments {entry : Entry m} {settings : Settings}
    {simulators : List (String × Simulator m)} {runner : Runner m}
    (built : runner.IsBuilt entry settings simulators) {slots : Slots} {parameter : Parameter}
    (member : parameter ∈ entry.parameters) {value : Value}
    (stored : slots.get? parameter.name = some value) :
    (runner.command.call slots).arguments.lookup parameter.name = some value := by
  obtain ⟨option, declared, rfl⟩ := built.exists_option member
  rw [lookup_eq_some_iff_mem (built.map_fst_arguments slots ▸ built.schema.nodup_names)]
  refine List.mem_map.mpr ⟨option, declared, ?_⟩
  rw [Slots.get, stored]

variable [Monad m]

/-- **Every token of an accepted command line is accounted for exactly once.** -/
theorem accounts_of_parse {entry : Entry m} {settings : Settings}
    {simulators : List (String × Simulator m)} {runner : Runner m}
    (made : ofEntry entry settings simulators = .ok runner)
    (free : ∀ parameter ∈ entry.parameters, parameter.IsFree) {tokens : List String}
    (literal : ∀ token ∈ tokens, ∀ mark, Mark.ofToken? runner.command.schema.table token = some mark →
      mark.inline ≠ some CommandLine.terminator) {call : Call}
    (accepted : runner.command.parse tokens = .ok call) :
    ∃ segments, runner.Accounts entry settings tokens segments call := by
  have built := isBuilt_of_ofEntry made
  obtain ⟨segments, entries, spells, accepts, rfl⟩ := (Command.parse_eq_ok_iff tokens call).mp accepted
  rw [Slots.erase_of_notMem (built.surplus_notMem free spells accepts)]
  have found {name : String} {value : Value} (stored : (name, value) ∈ entries) :
      Slots.get? ⟨entries⟩ name = some value := (lookup_eq_some_iff_mem accepts.distinct).mpr stored
  -- no inline argument is dropped
  have given {segment : Segment} (member : segment ∈ segments) : segment.given = segment.values := by
    refine Segment.given_eq_values (literal _ ?_ _ (spells.isCut segment member).mark)
    rw [spells.spelled]
    exact List.mem_flatMap_of_mem member List.mem_cons_self
  have only {p : Segment → Bool} {segment : Segment} (one : segments.filter p = [segment]) :
      segment ∈ segments := (List.mem_filter.mp (one ▸ List.mem_singleton_self segment)).1
  refine ⟨segments, {
    spelled := spells.spelled
    unterminated := spells.unterminated
    marks := fun segment member => ?_
    behind := fun segment member => ⟨(spells.isCut segment member).tokens, ?_⟩
    options := forall_mem_of_forall₂ (built.settled spells accepts) fun segment stored related => ?_
    parameter := fun parameter member => ?_
    keys := built.map_fst_arguments _
    simulator := ?_ }⟩
  · have isCut := spells.isCut segment member
    exact ⟨((built.schema.lookup_eq_some_iff _ _).mp isCut.lookup).2, isCut.mark⟩
  · exact forall_mem_of_forall₂ accepts.settled (fun _ _ settles => settles.alone) segment member
  · rcases built.option_of_settles free related.1 related.2 with
      ⟨parameter, declared, stands, _⟩ | ⟨selects, _⟩
    · exact .inl ⟨parameter, declared, stands⟩
    · exact .inr selects
  · obtain ⟨segment, value, one, read, stored⟩ := built.exists_segment free spells accepts member
    rw [given (only one)] at read
    exact ⟨segment, value, one, read, built.lookup_arguments member (found stored)⟩
  · rcases built.simulator_selected free spells accepts with
      ⟨segment, name, one, token, registered, stored⟩ | ⟨none, absent⟩
    · rw [given (only one)] at token
      refine .inl ⟨segment, name, one, token, built.names ▸ registered, ?_⟩
      rw [Command.call, found stored]
      rfl
    · refine .inr ⟨none, ?_⟩
      rw [Command.call, Slots.get?, lookup_eq_none_iff_notMem.mpr absent, built.default]
      rfl

theorem accounts_of_parse_coins :
    coins.command.parse ["-f", "--coin-count=3"] =
        .ok ⟨[("coinCount", .int 3), ("fair", .bool true)], .text "local"⟩ ∧
      ∃ segments, coins.Accounts .coins {} ["-f", "--coin-count=3"] segments
        ⟨[("coinCount", .int 3), ("fair", .bool true)], .text "local"⟩ := by
  have accepted : coins.command.parse ["-f", "--coin-count=3"] =
      .ok ⟨[("coinCount", .int 3), ("fair", .bool true)], .text "local"⟩ := by rfl
  refine ⟨accepted, accounts_of_parse ofEntry_coins Entry.isFree_coins ?_ accepted⟩
  have inlines : ∀ token ∈ ["-f", "--coin-count=3"],
      (Mark.ofToken? coins.command.schema.table token).bind Mark.inline ≠
        some CommandLine.terminator := by
    decide
  intro token member mark marked
  simpa [marked] using inlines token member

end Runner

end Argline
