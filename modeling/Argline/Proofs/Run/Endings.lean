/-
**How runs end.**

A run ends in an orderly way, with a status of its own for each stage that may fail, unless it breaks
off. What it may break off for are a few names of parameters, a percent sign where renamed options
begin, integers that are too long to be read, too big to be written, or beyond the doubles, failures
that have no text, and objects that cannot be shown.

* `Command.parse_of_unserved`: an option with nothing to store has its command line refused;
* `Command.IsShort`: no integer is too long for the option that is given it;
* `Runner.conclude`, `Runner.run_of_call`: what a run comes to behind its simulator;
* `Raised.IsReportable`, `IsOrdinary`: the outcomes of simulators that have a text or are reported;
* `Runner.Ends`, `Runner.Orderly`: the ways in which a run ends, and what is reported then;
* `Runner.run_orderly`: a run that none of the above stands against ends in one of these ways;
* `Runner.run_breaks_off`: runs that break off.
-/

import Mathlib
import Argline.Proofs.Help.Rendering
import Argline.Proofs.Run.Inline
import Argline.Proofs.Run.Separation
import Argline.Proofs.Value.Writing

namespace Argline

open Std.Do

/-- Every rejection is reported as an error of the command line. -/
theorem Rejection.parent_kind (rejection : Rejection) :
    rejection.report.kind.parent = some .commandLine := by
  cases rejection <;> rfl

/-- Every failed invocation is reported as one. -/
theorem InvocationFault.kind_report (fault : InvocationFault) :
    fault.report.kind = .invocation := by
  cases fault <;> rfl

/-- A failure of a stage itself, and nothing that is raised. -/
def Breakage.IsInternal (breakage : Breakage) : Prop := ∀ raised, breakage ≠ .raised raised

/-- What is raised has a text. -/
def Raised.HasText (raised : Raised) : Prop := ∃ content, raised.text = .ok content

theorem Raised.not_hasText_textless {name : String} {other : Raised} :
    ¬ (Raised.textless name other).HasText := by
  rintro ⟨content, has⟩
  cases has

/-- What is raised is a failure that can be reported: it has a text, and it is no interruption. -/
structure Raised.IsReportable (raised : Raised) : Prop where
  hasText : raised.HasText
  exception : ∀ left, raised ≠ .interrupt left

/-- The outcomes of simulators that can be reported, or whose integers can be written as the type of the
results asks for and whose objects can be shown. -/
inductive IsOrdinary (result : Option Ty) : Except Raised Value → Prop
  | returned {value : Value}
    (written : ∀ number, value.Mentions number → IsWritable number)
    (within : (result.getD (.scalar .unit)).innermost = .double →
      ∀ number, value.Mentions number → Double.ofInt? number ≠ none)
    (shown : ∀ breakage, ¬ value.Hides breakage) :
    IsOrdinary result (.ok value)
  | raised {raised : Raised} (reportable : raised.IsReportable) : IsOrdinary result (.error raised)

namespace Command

/-- Of the texts that a command line gives to options that read integers, none has an integer in it that
is too long to be read. -/
def IsShort (command : Command) (tokens : List String) : Prop :=
  ∀ segment ∈ (CommandLine.ofTokens command.schema.table tokens).segments,
    ∀ option, segment.mark.target = .parameter option → option.parameter.type.readsInteger = true →
      ∀ taken, segment.Gives command.schema.table taken →
        ∀ text ∈ taken, ∀ count, ¬ IsOverlong text count

/-- **A command line is refused if one of its segments has nothing to store**, unless it or one in
front of it asks for something. -/
theorem parse_of_unserved {command : Command} {tokens : List String} {front back : List Segment}
    {segment : Segment}
    (cut : (CommandLine.ofTokens command.schema.table tokens).segments = front ++ segment :: back)
    (takes : ∀ other ∈ front ++ [segment], other.mark.target.arity.isSome = true)
    (unserved : ∀ entry, ¬ command.Serves segment entry) :
    (∀ call, command.parse tokens ≠ .ok call) ∧
      ∀ request, command.parse tokens ≠ .error (.refused (.requested request)) := by
  refine ⟨fun call parsed => ?_, fun request asked => ?_⟩
  · obtain ⟨entries, served, _⟩ := exists_serves_of_parse parsed
    rw [cut] at served
    obtain ⟨entry, _, serves⟩ :=
      exists_mem_of_forall₂ served (List.mem_append_right _ List.mem_cons_self)
    exact unserved entry serves
  · cases declines_of_parse asked with
    | @requested before behind asks _ _ _ cut' served none answered =>
      -- either the one that asks comes no later than the segment, or the segment is carried out
      have early : asks ∈ front ++ [segment] ∨ segment ∈ before := by
        rcases List.append_eq_append_iff.mp (cut.symm.trans cut') with
          ⟨between, rfl, whole⟩ | ⟨between, rfl, whole⟩
        · rcases between with _ | ⟨first, rest⟩ <;> cases whole <;> simp
        · rcases between with _ | ⟨first, rest⟩ <;> cases whole <;> simp
      rcases early with early | early
      · have some := takes asks early
        rw [none] at some
        cases some
      · obtain ⟨entry, _, serves⟩ := exists_mem_of_forall₂ served early
        exact unserved entry serves

end Command

namespace Runner

variable {m : Type → Type} {runner : Runner m}

/-! ### Behind the simulator -/

/-- What a run comes to when the simulator of a name is done. -/
def conclude (runner : Runner m) (name : String) : Except Raised Value → Except Breakage Exit
  | .ok value => runner.returned value
  | .error raised =>
    match raisedBy name raised with
    | .refused fault => .ok (failed fault)
    | .broken breakage => .error breakage

/-- **A run whose command line is read runs the simulator of the call once, and concludes from its
outcome.** -/
theorem run_of_call [Monad m] [LawfulMonad m] {tokens : List String} {call : Call} {name : String}
    {simulator : Simulator m} (parsed : runner.command.parse tokens = .ok call)
    (found : runner.simulator call.simulator = .ok (name, simulator)) :
    runner.run tokens = runner.conclude name <$> simulator.run runner.entry call.arguments := by
  simp only [run, parsed, invoke, found, bind_assoc, map_eq_pure_bind]
  refine congrArg _ (funext fun outcome => ?_)
  cases outcome with
  | ok value => simp only [pure_bind, conclude]
  | error raised =>
    simp only [pure_bind, conclude]
    cases raisedBy name raised <;> rfl

/-- The ways in which a run ends whose simulator comes to one of some outcomes. -/
inductive Ends (runner : Runner m) (outcomes : Except Raised Value → Prop) (tokens : List String) :
    Exit → Prop
  /-- The command line asks for a text. -/
  | requested {request : Request}
    (asked : runner.command.parse tokens = .error (.refused (.requested request))) :
    Ends runner outcomes tokens (requested request)
  /-- The command line is refused. -/
  | rejected {rejection : Rejection}
    (refused : runner.command.parse tokens = .error (.refused (.rejected rejection))) :
    Ends runner outcomes tokens (rejected rejection)
  /-- The simulator raises something. -/
  | failed {call : Call} {name : String} {raised : Raised} {fault : InvocationFault}
    (parsed : runner.command.parse tokens = .ok call) (outcome : outcomes (.error raised))
    (reported : raisedBy name raised = .refused fault) :
    Ends runner outcomes tokens (failed fault)
  /-- The result does not belong to its type. -/
  | unprintable {call : Call} {value : Value} {mismatch : Mismatch}
    (parsed : runner.command.parse tokens = .ok call) (outcome : outcomes (.ok value))
    (misfit : value.formatResult runner.entry.result = .error (.refused mismatch)) :
    Ends runner outcomes tokens ⟨.failed, "", some (.failed (.result runner.entry.name mismatch.message)),
      [.idle, .parsing, .invoking, .formatting, .done]⟩
  /-- The text of the result is the output. -/
  | printed {call : Call} {value : Value} {content : String}
    (parsed : runner.command.parse tokens = .ok call) (outcome : outcomes (.ok value))
    (written : value.formatResult runner.entry.result = .ok content) :
    Ends runner outcomes tokens ⟨.success, content, none,
      [.idle, .parsing, .invoking, .formatting, .done]⟩

section Pure

variable {outcomes : Except Raised Value → Prop} {tokens : List String}

/-- A result that is ordinary has a text, or does not belong to its type. -/
theorem refused_of_ordinary {result : Option Ty} {value : Value} {halt : Halt Mismatch}
    (ordinary : IsOrdinary result (.ok value))
    (unwritten : value.formatResult result = .error halt) : ∃ mismatch, halt = .refused mismatch := by
  cases ordinary with
  | returned written within shown =>
    cases Value.unwritten_of_format unwritten with
    | mismatch => exact ⟨_, rfl⟩
    | undisplayed undisplayed =>
      cases undisplayed with
      | tooBig mentions big => exact absurd (written _ mentions) big
      | hidden hides => exact absurd hides (shown _)
    | overflow double mentions beyond => exact absurd beyond (within double _ mentions)

/-- Nothing but an interruption breaks off an invocation, and a failure that has no text. -/
theorem eq_interrupt_of_raisedBy {name : String} {raised : Raised} {breakage : Breakage}
    (hasText : raised.HasText) (broken : raisedBy name raised = .broken breakage) :
    ∃ left, raised = .interrupt left ∧ breakage = .raised raised := by
  cases raised with
  | interrupt left =>
    cases broken
    exact ⟨left, rfl, rfl⟩
  | foreign failure message => cases broken
  | textless failure other => exact absurd hasText Raised.not_hasText_textless
  | error report origin =>
    rw [raisedBy] at broken
    split_ifs at broken

/-- **What is concluded from an ordinary outcome is an exit.** -/
theorem ends_of_conclude {call : Call} {name : String} {outcome : Except Raised Value}
    (parsed : runner.command.parse tokens = .ok call) (possible : outcomes outcome)
    (ordinary : IsOrdinary runner.entry.result outcome) :
    ∃ exit, runner.conclude name outcome = .ok exit ∧ runner.Ends outcomes tokens exit := by
  cases outcome with
  | error raised =>
    cases reported : raisedBy name raised with
    | refused fault => exact ⟨_, by rw [conclude, reported], .failed parsed possible reported⟩
    | broken breakage =>
      cases ordinary with
      | raised reportable =>
        obtain ⟨left, interrupted, _⟩ := eq_interrupt_of_raisedBy reportable.hasText reported
        exact absurd interrupted (reportable.exception left)
  | ok value =>
    cases formatted : value.formatResult runner.entry.result with
    | ok content =>
      exact ⟨_, by simp [conclude, returned, format, formatted], .printed parsed possible formatted⟩
    | error halt =>
      obtain ⟨mismatch, rfl⟩ := refused_of_ordinary ordinary formatted
      exact ⟨_, by simp [conclude, returned, format, formatted],
        .unprintable parsed possible formatted⟩

end Pure

/-! ### In front of the simulator -/

/-- The simulator that is found is one of those that are registered. -/
theorem mem_of_simulator {key : Value} {name : String} {simulator : Simulator m}
    (found : runner.simulator key = .ok (name, simulator)) : (name, simulator) ∈ runner.simulators :=
  mem_of_lookup_eq_some (simulator_eq_ok_iff.mp found).2

section Parsing

variable {entry : Entry m} {settings : Settings} {simulators : List (String × Simulator m)}
  (built : runner.IsBuilt entry settings simulators) {tokens : List String}

include built

/-- **Reading a command line does not break off**, unless an integer is too long for its option, a
renamed option begins with a percent sign, or a parameter takes the surplus slot. -/
theorem IsBuilt.parse_ne_broken (plain : '%' ∉ settings.beginning.toList)
    (absent : ∀ parameter ∈ entry.parameters, parameter.name ≠ surplusSlot)
    (short : runner.command.IsShort tokens) (breakage : Breakage) : runner.command.parse tokens ≠ .error (.broken breakage) := by
  intro broken
  have vacant {slots : Slots} {left : List String}
      (scanned : runner.command.scan tokens = .ok (slots, left)) : slots.surplus = .ok [] := by
    obtain ⟨entries, served, rfl, _⟩ := Command.exists_serves_of_scan scanned
    exact Slots.surplus_of_notMem (surplus_notMem_of_serves served fun segment member =>
      built.slot_ne_surplus absent (built.mem_targets member).1)
  cases Command.declines_of_parse broken with
  | overlong member stands gives unread =>
    cases Value.misread_of_ofTokens unread with
    | overlong reads inTaken long => exact short _ member _ stands reads _ gives _ inTaken _ long
  | @unanswered key _ unanswered =>
    have signless : ∀ target ∈ runner.command.schema.targets, ∀ flag ∈ target.flags,
        '%' ∉ flag.toList := fun target inTargets flag flags =>
      built.schema.notMem_flags Text.isSign_percent plain inTargets flags
    obtain ⟨request, answered, _⟩ := Command.exists_request signless key
    rw [answered] at unanswered
    cases unanswered
  | surplus scanned failed =>
    rw [vacant scanned] at failed
    cases failed
  | notText scanned taken failed =>
    rw [vacant scanned] at taken
    cases taken
    cases failed

end Parsing

/-! ### Whole runs -/

/-- What is to be said of a run that ends. -/
structure Orderly (runner : Runner m) (outcomes : Except Raised Value → Prop)
    (tokens : List String) (exit : Exit) : Prop where
  ends : runner.Ends outcomes tokens exit
  code : exit.status.code ∈ [0, 1, 2]
  /-- An error is one of the command line, with the code 2, or one of the invocation, with the code 1. -/
  error : ∀ error, exit.error = some error →
    (exit.status.code = 2 ∧ error.report.kind.parent = some .commandLine) ∨
      (exit.status.code = 1 ∧ error.report.kind = .invocation)
  /-- An option that is given what cannot be converted ends in an error of the command line, unless it
  or one in front of it asks for something. -/
  unread : ∀ front segment back,
    (CommandLine.ofTokens runner.command.schema.table tokens).segments = front ++ segment :: back →
      (∀ other ∈ front ++ [segment], other.mark.target.arity.isSome = true) →
        (∀ entry, ¬ runner.command.Serves segment entry) →
          exit.status.code = 2 ∧ exit.error.isSome = true
  /-- A result that has no text ends in an error of the invocation. -/
  unprintable : (∃ call, runner.command.parse tokens = .ok call) →
    (∀ outcome, outcomes outcome → ∃ value halt, outcome = .ok value ∧
      value.formatResult runner.entry.result = .error halt) →
      exit.status.code = 1 ∧ exit.error.isSome = true

/-- **What ends in one of these ways is orderly.** -/
theorem Ends.orderly {outcomes : Except Raised Value → Prop} {tokens : List String} {exit : Exit}
    (ends : runner.Ends outcomes tokens exit) : runner.Orderly outcomes tokens exit where
  ends := ends
  code := by cases ends <;> simp [Runner.requested, Runner.rejected, Runner.failed, Status.code]
  error := by
    intro error reported
    cases ends with
    | requested asked => cases reported
    | rejected refused =>
      cases reported
      exact .inl ⟨rfl, Rejection.parent_kind _⟩
    | failed parsed outcome raised =>
      cases reported
      exact .inr ⟨rfl, InvocationFault.kind_report _⟩
    | unprintable parsed outcome misfit =>
      cases reported
      exact .inr ⟨rfl, rfl⟩
    | printed parsed outcome written => cases reported
  unread := by
    intro front segment back cut takes unserved
    obtain ⟨unparsed, unasked⟩ := Command.parse_of_unserved cut takes unserved
    cases ends with
    | requested asked => exact absurd asked (unasked _)
    | rejected refused => exact ⟨rfl, rfl⟩
    | failed parsed outcome raised => exact absurd parsed (unparsed _)
    | unprintable parsed outcome misfit => exact absurd parsed (unparsed _)
    | printed parsed outcome written => exact absurd parsed (unparsed _)
  unprintable := by
    rintro ⟨call, parsed⟩ textless
    cases ends with
    | requested asked =>
      rw [parsed] at asked
      cases asked
    | rejected refused =>
      rw [parsed] at refused
      cases refused
    | failed parsed outcome raised => exact ⟨rfl, rfl⟩
    | unprintable parsed outcome misfit => exact ⟨rfl, rfl⟩
    | printed parsed outcome written =>
      obtain ⟨value, halt, same, unwritten⟩ := textless _ outcome
      cases same
      rw [written] at unwritten
      cases unwritten

section Run

variable [Monad m] {ps : PostShape} [WPMonad m ps]

/-- A function of what an action returns. -/
theorem triple_map {α β : Type} {action : m α} {P : α → Prop} {Q : β → Prop} {f : α → β}
    (spec : ⦃⌜True⌝⦄ action ⦃⇓ result => ⌜P result⌝⦄) (implies : ∀ result, P result → Q (f result)) :
    ⦃⌜True⌝⦄ (f <$> action) ⦃⇓ result => ⌜Q result⌝⦄ := by
  rw [map_eq_pure_bind]
  refine Triple.bind _ _ spec fun result => Triple.pure _ ?_
  exact SPred.pure_mono (implies result)

/-- **A run ends in an orderly way**, if no parameter takes the slots of the simulator and of what is
left over, no renamed option begins with a percent sign, no integer is too long for the option that is
given it, and the simulators come to ordinary outcomes. -/
theorem run_orderly {entry : Entry m} {settings : Settings}
    {simulators : List (String × Simulator m)} {runner : Runner m}
    (made : ofEntry entry settings simulators = .ok runner)
    (apart : ∀ parameter ∈ entry.parameters,
      parameter.name ≠ simulatorSlot ∧ parameter.name ≠ surplusSlot)
    (plain : '%' ∉ settings.beginning.toList) {outcomes : Except Raised Value → Prop}
    (ordinary : ∀ outcome, outcomes outcome → IsOrdinary entry.result outcome)
    (simulated : ∀ registered ∈ runner.simulators, ∀ arguments,
      ⦃⌜True⌝⦄ registered.2.run entry arguments ⦃⇓ outcome => ⌜outcomes outcome⌝⦄)
    {tokens : List String} (short : runner.command.IsShort tokens) :
    ⦃⌜True⌝⦄ runner.run tokens
    ⦃⇓ result => ⌜∃ exit, result = .ok exit ∧ runner.Orderly outcomes tokens exit⌝⦄ := by
  have built := isBuilt_of_ofEntry made
  cases parsed : runner.command.parse tokens with
  | error halt =>
    cases halt with
    | broken breakage =>
      exact absurd parsed
        (built.parse_ne_broken plain (fun parameter member => (apart parameter member).2) short _)
    | refused stop =>
      cases stop with
      | requested request =>
        rw [run, parsed]
        exact Triple.pure _ (SPred.pure_intro ⟨_, rfl, (Ends.requested parsed).orderly⟩)
      | rejected rejection =>
        rw [run, parsed]
        exact Triple.pure _ (SPred.pure_intro ⟨_, rfl, (Ends.rejected parsed).orderly⟩)
  | ok call =>
    obtain ⟨name, simulator, _, found, _⟩ :=
      built.simulator_of_parse (fun parameter member => (apart parameter member).1) parsed
    rw [run_of_call parsed found, built.entry]
    refine triple_map (simulated _ (mem_of_simulator found) _) fun outcome possible => ?_
    obtain ⟨exit, concluded, ends⟩ :=
      ends_of_conclude parsed possible (built.entry ▸ ordinary outcome possible)
    exact ⟨exit, concluded, ends.orderly⟩

end Run

/-- Both options given, the flip returns nothing and prints nothing. -/
theorem run_orderly_coins :
    coins.run ["-c", "3", "--fair"] =
        .ok ⟨.success, "", none, [.idle, .parsing, .invoking, .formatting, .done]⟩ ∧
      ⦃⌜True⌝⦄ coins.run ["-c", "3", "--fair"]
      ⦃⇓ result => ⌜∃ exit, result = .ok exit ∧
        coins.Orderly (· = .ok .unit) ["-c", "3", "--fair"] exit⌝⦄ := by
  refine ⟨rfl, run_orderly ofEntry_coins ?_ (by decide) ?_ ?_ ?_⟩
  · intro parameter member
    have isFree := Entry.isFree_coins parameter member
    exact ⟨isFree.simulator, isFree.surplus⟩
  · rintro outcome rfl
    refine .returned ?_ ?_ ?_
    · intro number mentions
      cases mentions
    · intro _ number mentions
      cases mentions
    · intro breakage hides
      cases hides
  · intro registered member arguments
    obtain rfl := List.mem_singleton.mp member
    exact Triple.pure _ (SPred.pure_intro rfl)
  · intro segment member option stands reads taken gives text inTaken count long
    have length : ∀ text ∈ CommandLine.texts coins.command.schema.table ["-c", "3", "--fair"],
        text.toList.length ≤ digitLimit := by decide
    exact absurd long.length_lt (Nat.not_lt.mpr
      (length text (CommandLine.texts_subset_of_mem member (gives.subset inTaken))))

/-! ### Runs that break off -/

theorem returned_of_textless {value : Value} {breakage : Breakage} (internal : breakage.IsInternal)
    (textless : value.formatResult runner.entry.result = .error (.broken breakage)) :
    runner.returned value = .error breakage := by
  rw [returned, format, textless]
  cases breakage with
  | raised raised => exact absurd rfl (internal raised)
  | _ => rfl

theorem run_of_broken [Monad m] {tokens : List String} {breakage : Breakage}
    (broken : runner.command.parse tokens = .error (.broken breakage)) :
    runner.run tokens = pure (.error breakage) := by
  rw [run, broken]

/-- An integer text of one digit more than are read. -/
def overlong : String := String.ofList (List.replicate (digitLimit + 1) '1')

theorem readInteger_overlong : readInteger overlong = .error (.tooLong (digitLimit + 1)) := by
  refine (readInteger_eq_tooLong_iff _ _).mpr ⟨_, _, .plain ⟨?_, ?_⟩, List.length_replicate, ?_⟩
  · simp
  · intro c member
    rw [List.eq_of_mem_replicate member]
    rfl
  · exact Nat.lt_succ_self _

/-- An integer token that is too long breaks the run off. -/
theorem run_of_tooLong {token : String} {count : Nat}
    (long : readInteger token = .error (.tooLong count)) :
    ∃ runner, ofEntry (.echo "n" (.scalar .bigInt)) = .ok runner ∧
      runner.run ["--n" ++ "=" ++ token] = .error (.integerTooLong count) := by
  have made : ofEntry (.echo "n" (.scalar .bigInt)) {} Simulator.standard = .ok _ := rfl
  have built := isBuilt_of_ofEntry made
  have literal : token ≠ CommandLine.terminator := by
    rintro rfl
    have malformed : readInteger CommandLine.terminator = .error .malformed := rfl
    rw [malformed] at long
    cases long
  have unread : Value.ofToken (.scalar .bigInt) token = .error (.broken (.integerTooLong count)) := by
    rw [Value.ofToken, Value.scalarOfToken, Value.integerOfToken, long]
    rfl
  have read := built.map_parse_inline (.head _) rfl (by decide) (by decide) (.head _) literal
    (built.schema.lookup_inline (by decide) _ _)
  rw [Value.ofTokens_of_ofToken_error rfl unread] at read
  exact ⟨_, made, run_of_broken (map_eq_error_iff.mp read)⟩

/-- A result without a text breaks the run off. -/
theorem run_constant {type : Ty} {value : Value} {breakage : Breakage} (internal : breakage.IsInternal)
    (textless : value.formatResult (some type) = .error (.broken breakage)) :
    ∃ runner, ofEntry (.constant type value) = .ok runner ∧ runner.run [] = .error breakage := by
  have made : ofEntry (.constant type value) {} Simulator.standard = .ok _ := rfl
  exact ⟨_, made, returned_of_textless internal textless⟩

/-- An integer that is too big to be written has no text as a result. -/
theorem formatResult_of_unwritten {number : Int} (unwritten : writeInteger number = none) :
    (Value.int number).formatResult (some (.scalar .bigInt)) = .error (.broken .integerTooBig) := by
  have written : (Value.int number).formatResult (some (.scalar .bigInt)) =
      Value.formatInt number := rfl
  rw [written]
  unfold Value.formatInt
  rw [unwritten]

/-- Runs that break off: over an integer too long to be read, over one too big to be written, over a
percent sign where a renamed option begins, over parameters that take the slots of the simulator and of
what is left over, over a failure that has no text, and over an object that cannot be shown. -/
theorem run_breaks_off :
    (∃ runner, ofEntry (.echo "n" (.scalar .bigInt)) = .ok runner ∧
      runner.run ["--n" ++ "=" ++ overlong] = .error (.integerTooLong (digitLimit + 1))) ∧
    (∃ runner, ofEntry (.constant (.scalar .bigInt) (.int (10 ^ digitLimit))) = .ok runner ∧
      runner.run [] = .error .integerTooBig) ∧
    (∃ runner fault, ofEntry (.echo "help" (.scalar .int)) { beginning := "%" } = .ok runner ∧
      runner.run ["--%help"] = .error (.template fault)) ∧
    (∃ runner, ofEntry (.echo simulatorSlot (.scalar .bool)) = .ok runner ∧
      runner.run ["--" ++ simulatorSlot] = .error (.missingKey "True")) ∧
    (∃ runner, ofEntry (.echo surplusSlot (.scalar .int)) = .ok runner ∧
      runner.run ["--" ++ surplusSlot, "1"] = .error (.notIterable "int")) ∧
    (∃ runner, ofEntry (.raising (.mute 3)) = .ok runner ∧
      runner.run [] = .error (.raised (.mute 1))) ∧
    ∃ runner, ofEntry (.constant (.scalar .int) (.object "Blank" (.error (.raised (.mute 0))))) =
        .ok runner ∧
      runner.run [] = .error (.raised (.mute 0)) :=
  ⟨run_of_tooLong readInteger_overlong,
    run_constant (by simp [Breakage.IsInternal]) (formatResult_of_unwritten (by decide +kernel)),
    ⟨_, _, rfl, rfl⟩, ⟨_, rfl, rfl⟩, ⟨_, rfl, rfl⟩, ⟨_, rfl, rfl⟩, ⟨_, rfl, rfl⟩⟩

end Runner

end Argline
