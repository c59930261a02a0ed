/-
**The course of a run.**

A run reads its command line, and comes to its exit from that alone or from the outcome of one simulator
that is run in between. Its status, its error, its output, the states it went through and what was done
on simulators tell the same story.

* `Invocation`, `Course`: a simulator that is run, and what is done on the way to a result;
* `Runner.course`, `Runner.run_eq_perform`: the course of a run, which is all that a run does;
* `Exit.IsFaithful`: an exit whose parts agree with each other and with the simulators that were run;
* `Runner.run_faithful`: every exit of a run is such an exit, and the simulator that is selected is run
  once or not at all.
-/

import Argline.Proofs.Run.Endings

namespace Argline

/-- Is a kind of errors another one or part of it? -/
def ErrorKind.IsWithin (kind wider : ErrorKind) : Prop := kind = wider ∨ wider ∈ kind.ancestors

instance (kind wider : ErrorKind) : Decidable (kind.IsWithin wider) :=
  inferInstanceAs (Decidable (_ ∨ _))

/-- A kind is part of the next wider one. -/
theorem ErrorKind.isWithin_of_parent {kind wider : ErrorKind} (parent : kind.parent = some wider) :
    kind.IsWithin wider := by
  refine .inr ?_
  rw [ancestors, parent]
  exact List.mem_cons_self

/-! ### Courses -/

/-- A simulator that is run: the name under which it is selected, the values it is given, and what it
comes to. -/
structure Invocation where
  simulator : String
  arguments : Arguments
  outcome : Except Raised Value

/-- What is done on the way to a result. -/
inductive Course (m : Type → Type) (α : Type) where
  /-- No simulator is run. -/
  | ended (result : α)
  /-- One simulator is run, and the result concluded from its outcome. -/
  | simulated (name : String) (simulator : Simulator m) (arguments : Arguments)
    (conclude : Except Raised Value → α)

namespace Course

variable {m : Type → Type} {α β : Type}

/-- Take a course for an entry point. -/
def perform [Monad m] (entry : Entry m) : Course m α → m α
  | ended result => pure result
  | simulated _ simulator arguments conclude => conclude <$> simulator.run entry arguments

/-- A course with another result. -/
def map (f : α → β) : Course m α → Course m β
  | ended result => ended (f result)
  | simulated name simulator arguments conclude =>
    simulated name simulator arguments fun outcome => f (conclude outcome)

theorem perform_map [Monad m] [LawfulMonad m] (f : α → β) (entry : Entry m) (course : Course m α) :
    (course.map f).perform entry = f <$> course.perform entry := by
  cases course with
  | ended result => exact (map_pure f result).symm
  | simulated name simulator arguments conclude => exact (comp_map conclude f _)

/-- The simulators that are run on a course, with the result that their outcomes lead to. -/
inductive Yields : Course m α → List Invocation → α → Prop
  | ended (result : α) : Yields (ended result) [] result
  | simulated (name : String) (simulator : Simulator m) (arguments : Arguments)
    (conclude : Except Raised Value → α) (outcome : Except Raised Value) :
    Yields (simulated name simulator arguments conclude) [⟨name, arguments, outcome⟩]
      (conclude outcome)

@[simp]
theorem yields_ended_iff {value result : α} {invocations : List Invocation} :
    (ended value : Course m α).Yields invocations result ↔ invocations = [] ∧ value = result := by
  constructor
  · rintro ⟨⟩
    exact ⟨rfl, rfl⟩
  · rintro ⟨rfl, rfl⟩
    exact .ended value

@[simp]
theorem yields_simulated_iff {name : String} {simulator : Simulator m} {arguments : Arguments}
    {conclude : Except Raised Value → α} {result : α} {invocations : List Invocation} :
    (simulated name simulator arguments conclude).Yields invocations result ↔
      ∃ outcome, invocations = [⟨name, arguments, outcome⟩] ∧ conclude outcome = result := by
  constructor
  · rintro ⟨⟩
    exact ⟨_, rfl, rfl⟩
  · rintro ⟨outcome, rfl, rfl⟩
    exact .simulated name simulator arguments conclude outcome

/-- A course with another result runs the same simulators. -/
theorem yields_map_iff {f : α → β} {course : Course m α} {invocations : List Invocation}
    {result : β} : (course.map f).Yields invocations result ↔
      ∃ value, course.Yields invocations value ∧ f value = result := by
  cases course with
  | ended value => simp [map, and_assoc]
  | simulated name simulator arguments conclude =>
    simp only [map, yields_simulated_iff]
    constructor
    · rintro ⟨outcome, once, concluded⟩
      exact ⟨_, ⟨outcome, once, rfl⟩, concluded⟩
    · rintro ⟨_, ⟨outcome, once, rfl⟩, concluded⟩
      exact ⟨outcome, once, concluded⟩

end Course

/-! ### Exits -/

/-- The parts of an exit agree with each other, with the simulators that were run, and with whether the
command line asked for a text. -/
structure Exit.IsFaithful (exit : Exit) (asked : Prop) (invocations : List Invocation) : Prop where
  /-- The states are those of a request, of a command line that is refused, of a simulator that raises
  something, or of one that returns a value. -/
  states : exit.states ∈ [[State.idle, .parsing, .done], [.idle, .parsing, .reportingError, .done],
    [.idle, .parsing, .invoking, .done], [.idle, .parsing, .invoking, .formatting, .done]]
  requested : exit.states = [.idle, .parsing, .done] ↔ asked
  rejected : exit.status.code = 2 ↔ .reportingError ∈ exit.states
  reported : .reportingError ∈ exit.states ↔
    ∃ error, exit.error = some error ∧ error.report.kind.IsWithin .commandLine
  failed : exit.status.code = 1 ↔ .invoking ∈ exit.states ∧
    ∃ error, exit.error = some error ∧ error.report.kind.IsWithin .invocation
  returned : .formatting ∈ exit.states ↔
    ∃ invocation ∈ invocations, ∃ value, invocation.outcome = .ok value
  succeeded : exit.status.code = 0 ↔ exit.error = none
  silent : exit.status.code ≠ 0 → exit.output = ""
  exclusive : ¬ asked → (.invoking ∈ exit.states ↔ .reportingError ∉ exit.states)

/-- A request has the exit of a request. -/
theorem Exit.isFaithful_requested (request : Request) {asked : Prop} (asks : asked) :
    (Runner.requested request).IsFaithful asked [] := by
  constructor <;> simp [Runner.requested, Status.code, asks]

/-- A rejection has the exit of a command line that is refused. -/
theorem Exit.isFaithful_rejected (rejection : Rejection) {asked : Prop} (unasked : ¬ asked) :
    (Runner.rejected rejection).IsFaithful asked [] := by
  have within := ErrorKind.isWithin_of_parent rejection.parent_kind
  constructor <;> simp [Runner.rejected, Status.code, RunError.report, unasked, within]

namespace Runner

variable {m : Type → Type} {runner : Runner m}

/-- What is concluded from the outcome of a simulator: it has raised something, or returned a value that
has no text, or one that has. -/
theorem exit_of_conclude {name : String} {outcome : Except Raised Value} {exit : Exit}
    (concluded : runner.conclude name outcome = .ok exit) :
    (∃ raised fault, outcome = .error raised ∧ exit = failed fault) ∨
      ∃ value, outcome = .ok value ∧
        ((∃ fault, exit = ⟨.failed, "", some (.failed fault),
            [.idle, .parsing, .invoking, .formatting, .done]⟩) ∨
          ∃ content, exit = ⟨.success, content, none,
            [.idle, .parsing, .invoking, .formatting, .done]⟩) := by
  cases outcome with
  | error raised =>
    rw [conclude] at concluded
    split at concluded <;> cases concluded
    exact .inl ⟨raised, _, rfl, rfl⟩
  | ok value =>
    refine .inr ⟨value, rfl, ?_⟩
    rw [conclude, returned] at concluded
    split at concluded <;> cases concluded
    · exact .inr ⟨_, rfl⟩
    · exact .inl ⟨_, rfl⟩

/-- **What is concluded from an outcome is faithful to it.** -/
theorem isFaithful_of_conclude {name : String} {outcome : Except Raised Value} {exit : Exit}
    (concluded : runner.conclude name outcome = .ok exit) {asked : Prop} (unasked : ¬ asked)
    (arguments : Arguments) : exit.IsFaithful asked [⟨name, arguments, outcome⟩] := by
  have kind (fault : InvocationFault) : fault.report.kind.IsWithin .invocation ∧
      ¬ fault.report.kind.IsWithin .commandLine := by
    rw [fault.kind_report]
    decide
  rcases exit_of_conclude concluded with
    ⟨raised, fault, rfl, rfl⟩ | ⟨value, rfl, ⟨fault, rfl⟩ | ⟨content, rfl⟩⟩
  · constructor <;> simp [Runner.failed, Status.code, RunError.report, unasked, kind fault]
  · constructor <;> simp [Status.code, RunError.report, unasked, kind fault]
  · constructor <;> simp [Status.code, unasked]

/-- Behind a simulator a run has been invoking. -/
theorem invoking_mem_of_conclude {name : String} {outcome : Except Raised Value} {exit : Exit}
    (concluded : runner.conclude name outcome = .ok exit) : .invoking ∈ exit.states := by
  rcases exit_of_conclude concluded with
    ⟨raised, fault, rfl, rfl⟩ | ⟨value, rfl, ⟨fault, rfl⟩ | ⟨content, rfl⟩⟩
  · simp [Runner.failed]
  · simp
  · simp

/-! ### The course of a run -/

/-- The course of a run: a simulator is run if the command line is read, and names one. -/
def course (runner : Runner m) (tokens : List String) : Course m (Except Breakage Exit) :=
  match runner.command.parse tokens with
  | .error (.broken breakage) => .ended (.error breakage)
  | .error (.refused (.requested request)) => .ended (.ok (requested request))
  | .error (.refused (.rejected rejection)) => .ended (.ok (rejected rejection))
  | .ok call =>
    match runner.simulator call.simulator with
    | .error breakage => .ended (.error breakage)
    | .ok (name, simulator) => .simulated name simulator call.arguments (runner.conclude name)

/-- **A run takes its course**, and does nothing else. -/
theorem run_eq_perform [Monad m] [LawfulMonad m] (tokens : List String) :
    runner.run tokens = (runner.course tokens).perform runner.entry := by
  cases parsed : runner.command.parse tokens with
  | error halt =>
    rw [run, course, parsed]
    cases halt with
    | broken breakage => rfl
    | refused stop => cases stop <;> rfl
  | ok call =>
    cases found : runner.simulator call.simulator with
    | error breakage =>
      simp only [run, course, parsed, invoke, found, pure_bind]
      rfl
    | ok selected =>
      rw [run_of_call parsed found, course, parsed]
      simp only [found]
      rfl

/-- The ways in which the course of a run leads to an exit. -/
inductive Leads (runner : Runner m) (tokens : List String) : List Invocation → Exit → Prop
  | requested {request : Request}
    (asked : runner.command.parse tokens = .error (.refused (.requested request))) :
    Leads runner tokens [] (requested request)
  | rejected {rejection : Rejection}
    (refused : runner.command.parse tokens = .error (.refused (.rejected rejection))) :
    Leads runner tokens [] (rejected rejection)
  | concluded {call : Call} {name : String} {simulator : Simulator m}
    {outcome : Except Raised Value} {exit : Exit}
    (parsed : runner.command.parse tokens = .ok call)
    (found : runner.simulator call.simulator = .ok (name, simulator))
    (concluded : runner.conclude name outcome = .ok exit) :
    Leads runner tokens [⟨name, call.arguments, outcome⟩] exit

theorem leads_of_yields {tokens : List String} {invocations : List Invocation} {exit : Exit}
    (yields : (runner.course tokens).Yields invocations (.ok exit)) :
    runner.Leads tokens invocations exit := by
  unfold course at yields
  split at yields
  · obtain ⟨_, same⟩ := Course.yields_ended_iff.mp yields
    cases same
  · next asked =>
    obtain ⟨rfl, same⟩ := Course.yields_ended_iff.mp yields
    cases same
    exact .requested asked
  · next refused =>
    obtain ⟨rfl, same⟩ := Course.yields_ended_iff.mp yields
    cases same
    exact .rejected refused
  · next parsed =>
    split at yields
    · obtain ⟨_, same⟩ := Course.yields_ended_iff.mp yields
      cases same
    · next found =>
      obtain ⟨outcome, rfl, concluded⟩ := Course.yields_simulated_iff.mp yields
      exact .concluded parsed found concluded

/-- **An exit to which a run leads is faithful to what was done on the way.** -/
theorem Leads.isFaithful {tokens : List String} {invocations : List Invocation} {exit : Exit}
    (leads : runner.Leads tokens invocations exit) :
    exit.IsFaithful (∃ request, runner.command.parse tokens = .error (.refused (.requested request)))
      invocations := by
  cases leads with
  | requested asked => exact Exit.isFaithful_requested _ ⟨_, asked⟩
  | rejected refused =>
    refine Exit.isFaithful_rejected _ ?_
    rintro ⟨request, asked⟩
    rw [refused] at asked
    cases asked
  | concluded parsed found concluded =>
    refine isFaithful_of_conclude concluded ?_ _
    rintro ⟨request, asked⟩
    rw [parsed] at asked
    cases asked

/-- Before a run is invoking no simulator is run. -/
theorem Leads.invocations_eq_nil {tokens : List String} {invocations : List Invocation} {exit : Exit}
    (leads : runner.Leads tokens invocations exit) (inactive : .invoking ∉ exit.states) :
    invocations = [] := by
  cases leads with
  | requested asked => rfl
  | rejected refused => rfl
  | concluded parsed found concluded => exact absurd (invoking_mem_of_conclude concluded) inactive

/-- A run that has not been invoking has come to its exit at once. -/
theorem Leads.run_eq_pure [Monad m] {tokens : List String} {invocations : List Invocation}
    {exit : Exit} (leads : runner.Leads tokens invocations exit)
    (inactive : .invoking ∉ exit.states) : runner.run tokens = pure (.ok exit) := by
  cases leads with
  | requested asked => rw [run, asked]
  | rejected refused => rw [run, refused]
  | concluded parsed found concluded => exact absurd (invoking_mem_of_conclude concluded) inactive

/-- What is to be said of a run and the exits to which its course leads. -/
structure Faithful [Monad m] (runner : Runner m) (entry : Entry m) (tokens : List String) :
    Prop where
  /-- The run takes its course, on which one simulator is run or none, and does nothing else. -/
  performed : runner.run tokens = (runner.course tokens).perform entry
  /-- The parts of its exit agree, whatever the simulator comes to. -/
  exits : ∀ invocations exit, (runner.course tokens).Yields invocations (.ok exit) →
    exit.IsFaithful (∃ request, runner.command.parse tokens = .error (.refused (.requested request)))
      invocations
  /-- Where it is invoking, the simulator that is selected is run once, with a value for each
  parameter. -/
  invoked : ∀ invocations exit, (runner.course tokens).Yields invocations (.ok exit) →
    .invoking ∈ exit.states → ∃ call name simulator outcome,
      runner.command.parse tokens = .ok call ∧
        call.arguments.map Prod.fst = entry.parameters.map Parameter.name ∧
        call.simulator = .text name ∧ runner.simulators.lookup name = some simulator ∧
        runner.run tokens = runner.conclude name <$> simulator.run entry call.arguments ∧
        invocations = [⟨name, call.arguments, outcome⟩]
  /-- Where it is not, it comes to its exit at once, and no simulator is run. -/
  idle : ∀ invocations exit, (runner.course tokens).Yields invocations (.ok exit) →
    .invoking ∉ exit.states → runner.run tokens = pure (.ok exit) ∧ invocations = []

/-- **The states of a run tell what was done.** Every run takes its course, and the parts of each exit
that it may come to agree with each other and with the simulators that were run. -/
theorem run_faithful [Monad m] [LawfulMonad m] {entry : Entry m} {settings : Settings}
    {simulators : List (String × Simulator m)} {runner : Runner m}
    (made : ofEntry entry settings simulators = .ok runner) (tokens : List String) :
    runner.Faithful entry tokens where
  performed := (isBuilt_of_ofEntry made).entry ▸ run_eq_perform tokens
  exits _ _ yields := (leads_of_yields yields).isFaithful
  invoked := by
    intro invocations exit yields invoking
    cases leads_of_yields yields with
    | requested asked => simp [requested] at invoking
    | rejected refused => simp [rejected] at invoking
    | @concluded call name simulator outcome _ parsed found concluded =>
      have built := isBuilt_of_ofEntry made
      obtain ⟨segments, entries, _, _, called⟩ := (Command.parse_eq_ok_iff _ _).mp parsed
      obtain ⟨selected, registered⟩ := simulator_eq_ok_iff.mp found
      refine ⟨call, name, simulator, outcome, parsed, ?_, selected, registered, ?_, rfl⟩
      · rw [called]
        exact built.map_fst_arguments _
      · exact built.entry ▸ run_of_call parsed found
  idle _ _ yields inactive :=
    ⟨(leads_of_yields yields).run_eq_pure inactive,
      (leads_of_yields yields).invocations_eq_nil inactive⟩

end Runner

/-- An entry point that writes down the values with which it is called. -/
def Entry.recorded : Entry (StateM (List Arguments)) where
  name := "Record"
  parameters := Entry.coins.parameters
  body arguments := do
    modify (· ++ [arguments])
    pure (.ok .unit)

/-- It is called once for a command line that is read, and not for one that is refused or asks for the
version. -/
theorem Runner.run_faithful_recorded :
    ∃ runner, ofEntry Entry.recorded = .ok runner ∧
      (∀ tokens, runner.Faithful .recorded tokens) ∧
      runner.run ["-c", "3", "--fair"] [] =
        (.ok ⟨.success, "", none, [.idle, .parsing, .invoking, .formatting, .done]⟩,
          [[("coinCount", .int 3), ("fair", .bool true)]]) ∧
      runner.run ["-c", "3"] [] =
        (.ok (rejected (.missingOptions ["--fair"] runner.command.advice)), []) ∧
      runner.run ["-c", "3", "--version"] [] =
        (.ok (requested ⟨"version", "Record " ++ libraryVersion ++ "\n"⟩), []) := by
  have made : ofEntry Entry.recorded = .ok _ := rfl
  exact ⟨_, made, run_faithful made, rfl, rfl, rfl⟩

end Argline
