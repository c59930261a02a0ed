/-
**The boundary of a process.**

Whatever a program comes to, its process ends with one of five codes, and what it writes goes with the
code: the output of the run alone for a success, and lines on the standard error alone for anything
else. A run breaks off for its own reasons, for something that is raised where a failure is reported or
an object is shown, or because the user interrupts what is run, and only the last is an interruption of
the process. What is reported has to have a text: a failure that has none leaves the process as it is.

* `IsExpressible`: the outcomes of simulators of which every text is had that is asked for;
* `Runner.breakage_of_yields`: a run that breaks off is interrupted with its simulator, or breaks off for
  what can be reported;
* `Program.course`, `Program.guarded_eq_perform`: the course of a program, which is all that it does;
* `Transcript.IsConsistent`: a code that agrees with what is written and with the simulators run;
* `Program.guarded_consistent`: every program at its boundary leaves such a transcript behind;
* `Program.guarded_escapes`: programs that end with what is raised.
-/

import Argline.Proofs.Run.Course
import Argline.Proofs.Value.Normal
import Argline.Run.Program

namespace Argline

/-! ### Interruptions and failures -/

/-- The simulator is interrupted. -/
def Invocation.IsInterrupted (invocation : Invocation) : Prop :=
  ∃ text, invocation.outcome = .error (.interrupt text)

/-- The outcomes of simulators of which every text is had that is asked for: what is raised has a text,
and what an object raises that is to be shown can be reported. -/
inductive IsExpressible : Except Raised Value → Prop
  | returned {value : Value}
    (shown : ∀ raised, value.Hides (.raised raised) → raised.IsReportable) : IsExpressible (.ok value)
  | raised {raised : Raised} (hasText : raised.HasText) : IsExpressible (.error raised)

/-- A failure that can be reported: if something is raised, it can be. -/
def Breakage.IsReportable (breakage : Breakage) : Prop :=
  ∀ raised, breakage = .raised raised → raised.IsReportable

theorem Breakage.IsInternal.isReportable {breakage : Breakage} (internal : breakage.IsInternal) :
    breakage.IsReportable :=
  fun raised same => absurd same (internal raised)

theorem Value.isInternal_of_parts {value : Value} {breakage : Breakage}
    (failed : value.parts = .error breakage) : breakage.IsInternal := by
  rintro raised rfl
  cases value with
  | range interval =>
    rw [parts, map_eq_error_iff, Range.members] at failed
    split at failed <;> cases failed
  | _ => simp [parts] at failed

theorem isInternal_of_textsFrom {index : Nat} {values : List Value} {breakage : Breakage}
    (failed : textsFrom index values = .error breakage) : breakage.IsInternal := by
  induction values generalizing index with
  | nil => cases failed
  | cons value values ih =>
    cases value with
    | text content =>
      rw [textsFrom, map_eq_error_iff] at failed
      exact ih failed
    | _ =>
      rintro raised rfl
      simp [textsFrom] at failed

theorem Value.isInternal_of_ofTokens {type : Ty} {tokens : List String} {breakage : Breakage}
    (failed : ofTokens type tokens = .error (.broken breakage)) : breakage.IsInternal := by
  rintro raised rfl
  cases misread_of_ofTokens failed

/-- No tuple is read. -/
theorem Value.ofTokens_ne_tuple {type : Ty} {tokens : List String} {items : List Value} :
    ofTokens type tokens ≠ .ok (.tuple items) := by
  intro read
  cases type with
  | array element =>
    obtain ⟨_, _, _, same⟩ := (ofTokens_array _ _ _).mp read
    cases same
  | scalar kind =>
    by_cases exact : kind = .double
    · subst exact
      obtain ⟨token, _, found⟩ := (ofTokens_of_single rfl _ _).mp read
      obtain ⟨_, _, same⟩ := Option.map_eq_some_iff.mp (eq_some_of_orUnreadable found)
      cases same
    · cases hasType_of_ofTokens_scalar exact read

namespace Command

variable {command : Command}

theorem isInternal_of_request {key : String} {breakage : Breakage}
    (failed : command.request key = .error breakage) : breakage.IsInternal := by
  rintro raised rfl
  unfold request at failed
  split at failed
  · cases failed
  · rw [map_eq_error_iff, helpText] at failed
    split at failed <;> cases failed

/-- **Nothing is raised while a command line is read.** -/
theorem isInternal_of_parse {tokens : List String} {breakage : Breakage}
    (failed : command.parse tokens = .error (.broken breakage)) : breakage.IsInternal := by
  cases declines_of_parse failed with
  | overlong member stands gives unread => exact Value.isInternal_of_ofTokens unread
  | unanswered unanswered => exact isInternal_of_request unanswered
  | surplus scanned failed =>
    unfold Slots.surplus at failed
    split at failed
    · cases failed
    · exact Value.isInternal_of_parts failed
  | notText scanned taken failed => exact isInternal_of_textsFrom failed

/-- No tuple is in the slot of the simulator. -/
theorem simulator_ne_tuple_of_parse {tokens : List String} {call : Call} {items : List Value}
    (parsed : command.parse tokens = .ok call) : call.simulator ≠ .tuple items := by
  obtain ⟨entries, served, _, rfl⟩ := exists_serves_of_parse parsed
  rw [Command.call]
  cases stored : (Slots.erase ⟨entries⟩ surplusSlot).get? simulatorSlot with
  | none => simp
  | some value =>
    rintro rfl
    obtain ⟨segment, _, taken, left, _, stores⟩ := exists_serves_of_get? served stored
    generalize segment.mark.target = target, same : (simulatorSlot, Value.tuple items) = entry at stores
    cases stores with
    | parameter read => exact Value.ofTokens_ne_tuple ((Prod.mk.inj same).2 ▸ read)
    | simulator takes selected =>
      obtain ⟨_, _, _, text⟩ := (selectSimulator_eq_ok_iff _ _).mp selected
      cases (Prod.mk.inj same).2.trans text

end Command

namespace Runner

variable {m : Type → Type} {runner : Runner m}

/-- Nothing is raised while a simulator is looked up, except where a tuple is to be shown that holds an
object. -/
theorem isInternal_of_simulator {key : Value} {breakage : Breakage}
    (failed : runner.simulator key = .error breakage) (plain : ∀ items, key ≠ .tuple items) :
    breakage.IsInternal := by
  rintro raised rfl
  unfold simulator at failed
  split at failed
  · rw [map_eq_error_iff, Bindings.get] at failed
    split at failed <;> cases failed
  · cases failed
  · cases failed
  · next unlisted unshowable =>
    rcases bind_eq_error_iff.mp failed with unshown | ⟨shown, _, missing⟩
    · cases Value.undisplayed_of_display unshown with
      | hidden hides =>
        cases hides with
        | object => exact unshowable _ _ rfl
        | list member hides => exact unlisted _ rfl
        | tuple member hides => exact plain _ rfl
    · cases missing

theorem eq_raised_of_unreported {raised : Raised} {breakage : Breakage}
    (broken : unreported raised = .broken breakage) : breakage = .raised raised := by
  cases raised with
  | error report origin =>
    rw [unreported] at broken
    split_ifs at broken
    exact (Halt.broken.inj broken).symm
  | _ => exact (Halt.broken.inj broken).symm

theorem eq_raised_of_unshown {name : String} {raised : Raised} {breakage : Breakage}
    (broken : unshown name raised = .broken breakage) : breakage = .raised raised := by
  cases raised with
  | error report origin =>
    rw [unshown] at broken
    split_ifs at broken
    exact eq_raised_of_unreported broken
  | _ => exact eq_raised_of_unreported broken

/-- A result breaks a run off for what it has no text for. -/
theorem formatResult_of_returned {value : Value} {breakage : Breakage}
    (failed : runner.returned value = .error breakage) :
    value.formatResult runner.entry.result = .error (.broken breakage) := by
  have unformatted : runner.format value = .error (.broken breakage) := by
    unfold returned at failed
    split at failed <;> cases failed
    assumption
  unfold format at unformatted
  split at unformatted
  · cases unformatted
  · cases unformatted
  · next unwritten => rw [unwritten, eq_raised_of_unshown (Except.error.inj unformatted)]
  · next unwritten => rw [unwritten, Halt.broken.inj (Except.error.inj unformatted)]

/-- What is raised where a result is formatted is raised by an object in it. -/
theorem hides_of_returned {value : Value} {raised : Raised}
    (failed : runner.returned value = .error (.raised raised)) : value.Hides (.raised raised) := by
  cases Value.unwritten_of_format (formatResult_of_returned failed) with
  | undisplayed undisplayed =>
    cases undisplayed with
    | hidden hides => exact hides

/-- What is concluded from an expressible outcome is an interruption, as the outcome is one, or can be
reported, as the outcome is none. -/
theorem breakage_of_conclude {name : String} {outcome : Except Raised Value} {breakage : Breakage}
    (expressible : IsExpressible outcome)
    (concluded : runner.conclude name outcome = .error breakage) :
    (∃ left, outcome = .error (.interrupt left) ∧ breakage = .raised (.interrupt left)) ∨
      (∀ left, outcome ≠ .error (.interrupt left)) ∧ breakage.IsReportable := by
  cases expressible with
  | returned shown =>
    refine .inr ⟨nofun, ?_⟩
    rintro raised rfl
    exact shown raised (hides_of_returned concluded)
  | @raised raised hasText =>
    rw [conclude] at concluded
    split at concluded
    · cases concluded
    · next broken =>
      cases concluded
      obtain ⟨left, rfl, rfl⟩ := eq_interrupt_of_raisedBy hasText broken
      exact .inl ⟨left, rfl, rfl⟩

/-- **A run that breaks off is interrupted with its simulator, or breaks off for what can be reported**,
as long as its simulator comes to what is expressible. -/
theorem breakage_of_yields {tokens : List String} {invocations : List Invocation}
    {breakage : Breakage} (yields : (runner.course tokens).Yields invocations (.error breakage))
    (expressible : ∀ invocation ∈ invocations, IsExpressible invocation.outcome) :
    ((∃ invocation ∈ invocations, invocation.IsInterrupted) ∧
        ∃ left, breakage = .raised (.interrupt left)) ∨
      (¬ ∃ invocation ∈ invocations, invocation.IsInterrupted) ∧ breakage.IsReportable := by
  unfold course at yields
  split at yields
  · next failed =>
    obtain ⟨rfl, same⟩ := Course.yields_ended_iff.mp yields
    cases same
    exact .inr ⟨by simp, (Command.isInternal_of_parse failed).isReportable⟩
  · obtain ⟨_, same⟩ := Course.yields_ended_iff.mp yields
    cases same
  · obtain ⟨_, same⟩ := Course.yields_ended_iff.mp yields
    cases same
  · next parsed =>
    split at yields
    · next failed =>
      obtain ⟨rfl, same⟩ := Course.yields_ended_iff.mp yields
      cases same
      have internal := isInternal_of_simulator failed fun items =>
        Command.simulator_ne_tuple_of_parse parsed
      exact .inr ⟨by simp, internal.isReportable⟩
    · obtain ⟨outcome, rfl, concluded⟩ := Course.yields_simulated_iff.mp yields
      rcases breakage_of_conclude (expressible _ (List.mem_singleton_self _)) concluded with
        ⟨left, rfl, rfl⟩ | ⟨uninterrupted, reportable⟩
      · exact .inl ⟨⟨_, List.mem_singleton_self _, left, rfl⟩, left, rfl⟩
      · refine .inr ⟨?_, reportable⟩
        rintro ⟨_, member, left, interrupted⟩
        obtain rfl := List.mem_singleton.mp member
        exact uninterrupted left interrupted

/-- A run that comes to an exit is not interrupted. -/
theorem Leads.uninterrupted {tokens : List String} {invocations : List Invocation} {exit : Exit}
    (leads : runner.Leads tokens invocations exit) :
    ¬ ∃ invocation ∈ invocations, invocation.IsInterrupted := by
  rintro ⟨invocation, member, left, interrupted⟩
  cases leads with
  | requested asked => cases member
  | rejected refused => cases member
  | concluded parsed found concluded =>
    obtain rfl := List.mem_singleton.mp member
    dsimp only at interrupted
    subst interrupted
    cases concluded

/-- An exit is a success, a failure or a rejection. -/
theorem Leads.status_eq {tokens : List String} {invocations : List Invocation} {exit : Exit}
    (leads : runner.Leads tokens invocations exit) :
    exit.status = .success ∨ exit.status = .failed ∨ exit.status = .rejected := by
  cases leads with
  | requested asked => simp [Runner.requested]
  | rejected refused => simp [Runner.rejected]
  | concluded parsed found concluded =>
    rcases exit_of_conclude concluded with
      ⟨raised, fault, rfl, rfl⟩ | ⟨value, rfl, ⟨fault, rfl⟩ | ⟨content, rfl⟩⟩ <;> simp [Runner.failed]

/-- A rejection comes from the command line alone. -/
theorem Leads.invoking_notMem {tokens : List String} {invocations : List Invocation} {exit : Exit}
    (leads : runner.Leads tokens invocations exit) (rejected : exit.status.code = 2) :
    .invoking ∉ exit.states := by
  have reporting := leads.isFaithful.rejected.mp rejected
  have states := leads.isFaithful.states
  intro invoking
  simp only [List.mem_cons, List.not_mem_nil, or_false] at states
  rcases states with same | same | same | same <;> simp [same] at reporting invoking

end Runner

/-! ### Transcripts -/

theorem diagnosticLine_ne_empty (content : String) : diagnosticLine content ≠ "" := by
  intro empty
  have newline := congrArg String.toList empty
  simp [diagnosticLine] at newline

theorem diagnosticLines_ne_empty (message : String) (hint : Option String) :
    diagnosticLines message hint ≠ "" := by
  intro empty
  exact diagnosticLine_ne_empty _ (String.append_eq_empty_iff.mp empty).1

/-- What a program leaves behind agrees with itself, and with what the simulators that were run came
to. -/
structure Transcript.IsConsistent (transcript : Transcript) (invocations : List Invocation) :
    Prop where
  code : transcript.status.code ∈ [0, 1, 2, 3, 130]
  diagnostics : transcript.diagnostics = "" ↔ transcript.status.code = 0
  output : transcript.status.code ≠ 0 → transcript.output = ""
  interrupted : transcript.status.code = 130 ↔
    ∃ invocation ∈ invocations, invocation.IsInterrupted
  rejected : transcript.status.code = 2 → invocations = []

/-- A transcript of a failure outside every kind is one of a program that is not interrupted. -/
theorem Transcript.isConsistent_unexpected {diagnostics : String} (shown : diagnostics ≠ "")
    {invocations : List Invocation}
    (uninterrupted : ¬ ∃ invocation ∈ invocations, invocation.IsInterrupted) :
    (Transcript.mk .unexpected "" diagnostics).IsConsistent invocations := by
  constructor <;> simp [Status.code, shown]
  simpa using uninterrupted

/-- A transcript of an interruption is one of a program that is interrupted. -/
theorem Transcript.isConsistent_interrupted {diagnostics : String} (shown : diagnostics ≠ "")
    {invocations : List Invocation}
    (interrupted : ∃ invocation ∈ invocations, invocation.IsInterrupted) :
    (Transcript.mk .interrupted "" diagnostics).IsConsistent invocations := by
  constructor <;> simp [Status.code, shown, interrupted]

namespace Runner

variable {m : Type → Type} {runner : Runner m}

/-- **What a run leaves behind that comes to an exit is consistent.** -/
theorem Leads.isConsistent {tokens : List String} {invocations : List Invocation} {exit : Exit}
    (leads : runner.Leads tokens invocations exit) : exit.transcript.IsConsistent invocations where
  code := by
    rcases leads.status_eq with same | same | same <;> simp [Exit.transcript, same, Status.code]
  diagnostics := by
    have shown (report : Report) : report.diagnostic ≠ "" := diagnosticLines_ne_empty _ _
    refine Iff.trans ?_ leads.isFaithful.succeeded.symm
    unfold Exit.transcript
    cases exit.error <;> simp [shown]
  output := leads.isFaithful.silent
  interrupted := by
    refine iff_of_false ?_ leads.uninterrupted
    rcases leads.status_eq with same | same | same <;> simp [Exit.transcript, same, Status.code]
  rejected rejected := leads.invocations_eq_nil (leads.invoking_notMem rejected)

end Runner

/-! ### Programs -/

/-- What has a text is an interruption if and only if it is reported as one. -/
theorem Simulator.reported_eq_interrupt_iff {name left : String} {raised : Raised}
    (hasText : raised.HasText) :
    reported name raised = .interrupt left ↔ raised = .interrupt left := by
  cases raised with
  | error report origin =>
    rw [reported]
    split_ifs <;> simp
  | foreign failure message => simp [reported]
  | textless failure other => exact absurd hasText Raised.not_hasText_textless
  | interrupt left => rfl

/-- What has a text is reported by what has a text. -/
theorem Simulator.hasText_reported {name : String} {raised : Raised} (hasText : raised.HasText) :
    (reported name raised).HasText := by
  cases raised with
  | error report origin =>
    rw [reported]
    split_ifs <;> exact ⟨_, rfl⟩
  | foreign failure message => exact ⟨_, rfl⟩
  | textless failure other => exact absurd hasText Raised.not_hasText_textless
  | interrupt left => exact ⟨left, rfl⟩

/-- What is expressible is so behind the simulator that runs the entry point itself. -/
theorem IsExpressible.reported {outcome : Except Raised Value} (expressible : IsExpressible outcome)
    (name : String) : IsExpressible (outcome.mapError (Simulator.reported name)) := by
  cases expressible with
  | returned shown => exact .returned shown
  | raised hasText => exact .raised (Simulator.hasText_reported hasText)

/-- The simulator that runs the entry point itself runs it once. -/
theorem Simulator.run_inProcess {m : Type → Type} [Monad m] [LawfulMonad m] (entry : Entry m)
    (arguments : Arguments) :
    inProcess.run entry arguments =
      Except.mapError (reported entry.name) <$> entry.body arguments := by
  rw [map_eq_pure_bind]
  apply congrArg (entry.body arguments >>= ·)
  funext outcome
  cases outcome <;> rfl

namespace Program

variable {m : Type → Type}

/-- What a program leaves behind for what its run comes to. -/
def bounded : Except Breakage Exit → Except Raised Transcript
  | .ok exit => .ok exit.transcript
  | .error breakage => broken breakage

/-- A program that breaks off for what can be reported reports it. -/
theorem broken_of_isReportable {breakage : Breakage} (reportable : breakage.IsReportable) :
    ∃ diagnostics, diagnostics ≠ "" ∧ broken breakage = .ok ⟨.unexpected, "", diagnostics⟩ := by
  have prefixed (content message : String) :
      diagnosticLine content ++ diagnosticLines message none ≠ "" := fun empty =>
    diagnosticLine_ne_empty _ (String.append_eq_empty_iff.mp empty).1
  cases breakage with
  | raised raised =>
    obtain ⟨hasText, exception⟩ := reportable raised rfl
    cases raised with
    | error report origin => exact ⟨_, diagnosticLines_ne_empty _ _, rfl⟩
    | foreign name message => exact ⟨_, prefixed _ _, rfl⟩
    | textless name other => exact absurd hasText Raised.not_hasText_textless
    | interrupt left => exact absurd rfl (exception left)
  | _ => exact ⟨_, prefixed _ _, rfl⟩

/-- A program that breaks off does not end like a run. -/
theorem status_of_broken {breakage : Breakage} {transcript : Transcript}
    (left : broken breakage = .ok transcript) : transcript.status.code ∈ [3, 130] := by
  unfold broken at left
  split at left
  · cases left
    exact List.mem_cons_of_mem _ List.mem_cons_self
  · cases left
    exact List.mem_cons_self
  · obtain ⟨message, _, rfl⟩ := map_eq_ok_iff.mp left
    exact List.mem_cons_self

/-- **What is left behind of a run is consistent**, if its simulator comes to what is expressible. -/
theorem isConsistent_bounded {runner : Runner m} {tokens : List String}
    {invocations : List Invocation} {result : Except Breakage Exit}
    (yields : (runner.course tokens).Yields invocations result)
    (expressible : ∀ invocation ∈ invocations, IsExpressible invocation.outcome) :
    ∃ transcript, bounded result = .ok transcript ∧ transcript.IsConsistent invocations := by
  cases result with
  | ok exit => exact ⟨_, rfl, (Runner.leads_of_yields yields).isConsistent⟩
  | error breakage =>
    rcases Runner.breakage_of_yields yields expressible with
      ⟨interrupted, left, rfl⟩ | ⟨uninterrupted, reportable⟩
    · exact ⟨_, rfl, Transcript.isConsistent_interrupted (diagnosticLine_ne_empty _) interrupted⟩
    · obtain ⟨diagnostics, shown, reported⟩ := broken_of_isReportable reportable
      exact ⟨_, reported, Transcript.isConsistent_unexpected shown uninterrupted⟩

variable [Monad m]

/-- The transcript of an entry point whose options cannot be named. -/
def unnamed (fault : SchemaFault) : Transcript := ⟨.unexpected, "", fault.report.diagnostic⟩

/-- The course of a program: that of its run, if its options can be named. -/
def course (entry : Entry m) (settings : Settings) (simulators : List (String × Simulator m))
    (tokens : List String) : Course m (Except Raised Transcript) :=
  match Runner.ofEntry entry settings simulators with
  | .error fault => .ended (.ok (unnamed fault))
  | .ok runner => (runner.course tokens).map bounded

theorem guarded_of_fault {entry : Entry m} {settings : Settings}
    {simulators : List (String × Simulator m)} [LawfulMonad m] {fault : SchemaFault}
    (failed : Runner.ofEntry entry settings simulators = .error fault) (tokens : List String) :
    guarded entry settings simulators tokens = pure (.ok (unnamed fault)) := by
  simp only [guarded, run, failed, pure_bind]
  rfl

/-- A program whose options can be named leaves behind what its run comes to. -/
theorem guarded_of_runner {entry : Entry m} {settings : Settings}
    {simulators : List (String × Simulator m)} [LawfulMonad m] {runner : Runner m}
    (made : Runner.ofEntry entry settings simulators = .ok runner) (tokens : List String) :
    guarded entry settings simulators tokens = bounded <$> runner.run tokens := by
  simp only [guarded, run, made, Runner.main, bind_assoc, map_eq_pure_bind]
  congr 1
  funext result
  cases result <;> simp only [pure_bind] <;> rfl

/-- **A program takes its course**, and does nothing else. -/
theorem guarded_eq_perform [LawfulMonad m] (entry : Entry m) (settings : Settings)
    (simulators : List (String × Simulator m)) (tokens : List String) :
    guarded entry settings simulators tokens =
      (course entry settings simulators tokens).perform entry := by
  cases made : Runner.ofEntry entry settings simulators with
  | error fault =>
    rw [guarded_of_fault made, course, made]
    rfl
  | ok runner =>
    rw [guarded_of_runner made, course, made, Runner.run_eq_perform,
      (Runner.isBuilt_of_ofEntry made).entry]
    exact (Course.perform_map _ _ _).symm

/-- What the course of a program yields is left behind of a fault, or of what its run comes to. -/
theorem exists_of_yields {entry : Entry m} {settings : Settings}
    {simulators : List (String × Simulator m)} {tokens : List String} {invocations : List Invocation}
    {result : Except Raised Transcript}
    (yields : (course entry settings simulators tokens).Yields invocations result) :
    (∃ fault, Runner.ofEntry entry settings simulators = .error fault ∧ invocations = [] ∧
        .ok (unnamed fault) = result) ∨
      ∃ runner outcome, Runner.ofEntry entry settings simulators = .ok runner ∧
        (runner.course tokens).Yields invocations outcome ∧ bounded outcome = result := by
  unfold course at yields
  split at yields
  · next fault failed => exact .inl ⟨fault, failed, Course.yields_ended_iff.mp yields⟩
  · next runner made =>
    obtain ⟨outcome, yields, same⟩ := Course.yields_map_iff.mp yields
    exact .inr ⟨runner, outcome, made, yields, same⟩

section Course

variable {entry : Entry m} {settings : Settings} {simulators : List (String × Simulator m)}
  {tokens : List String}

/-- **Whatever a program leaves behind is consistent**, and it leaves something behind if its simulator
comes to what is expressible. -/
theorem isConsistent_of_yields {invocations : List Invocation} {result : Except Raised Transcript}
    (yields : (course entry settings simulators tokens).Yields invocations result)
    (expressible : ∀ invocation ∈ invocations, IsExpressible invocation.outcome) :
    ∃ transcript, result = .ok transcript ∧ transcript.IsConsistent invocations := by
  rcases exists_of_yields yields with ⟨fault, _, rfl, rfl⟩ | ⟨runner, outcome, _, comes, rfl⟩
  · exact ⟨_, rfl, Transcript.isConsistent_unexpected (diagnosticLines_ne_empty _ _) (by simp)⟩
  · exact isConsistent_bounded comes expressible

/-- A program that neither fails outside every kind nor is interrupted leaves the exit of a run
behind. -/
theorem exists_leads_of_yields {invocations : List Invocation} {transcript : Transcript}
    (yields : (course entry settings simulators tokens).Yields invocations (.ok transcript))
    (orderly : transcript.status.code ∉ [3, 130]) :
    ∃ runner exit, Runner.ofEntry entry settings simulators = .ok runner ∧
      (runner.course tokens).Yields invocations (.ok exit) ∧ exit.transcript = transcript := by
  rcases exists_of_yields yields with ⟨fault, _, _, same⟩ | ⟨runner, outcome, made, comes, same⟩
  · cases same
    exact absurd List.mem_cons_self orderly
  · cases outcome with
    | ok exit => exact ⟨runner, exit, made, comes, Except.ok.inj same⟩
    | error breakage => exact absurd (status_of_broken same) orderly

/-- A program whose command line is refused comes to its end at once. -/
theorem guarded_of_rejected [LawfulMonad m] {invocations : List Invocation} {transcript : Transcript}
    (yields : (course entry settings simulators tokens).Yields invocations (.ok transcript))
    (code : transcript.status.code = 2) :
    guarded entry settings simulators tokens = pure (.ok transcript) := by
  obtain ⟨runner, exit, made, comes, rfl⟩ := exists_leads_of_yields yields (by simp [code])
  have leads := Runner.leads_of_yields comes
  have inactive := leads.invoking_notMem code
  rw [guarded_of_runner made, leads.run_eq_pure inactive, map_pure, bounded]

/-- On the simulator that runs the entry point itself, a program is interrupted if and only if the entry
point is. -/
theorem interrupted_iff_of_inProcess {name : String} {arguments : Arguments}
    {conclude : Except Raised Value → Except Raised Transcript}
    (simulated : course entry settings simulators tokens =
      .simulated name .inProcess arguments conclude) {outcome : Except Raised Value}
    (expressible : IsExpressible outcome) :
    ∃ transcript, conclude (outcome.mapError (Simulator.reported entry.name)) = .ok transcript ∧
      (transcript.status.code = 130 ↔ ∃ text, outcome = .error (.interrupt text)) := by
  have yields := Course.Yields.simulated name (.inProcess : Simulator m) arguments conclude
    (outcome.mapError (Simulator.reported entry.name))
  rw [← simulated] at yields
  obtain ⟨transcript, left, consistent⟩ := isConsistent_of_yields yields fun invocation member => by
    obtain rfl := List.mem_singleton.mp member
    exact expressible.reported entry.name
  refine ⟨transcript, left, consistent.interrupted.trans ?_⟩
  cases expressible with
  | returned shown => simp [Invocation.IsInterrupted, Except.mapError]
  | raised hasText =>
    simp [Invocation.IsInterrupted, Except.mapError, Simulator.reported_eq_interrupt_iff hasText]

end Course

/-- What is to be said of a program at the boundary of its process. -/
structure Bounded (entry : Entry m) (settings : Settings) (simulators : List (String × Simulator m))
    (tokens : List String) : Prop where
  /-- The program takes its course, on which one simulator is run or none, and does nothing else. -/
  performed : guarded entry settings simulators tokens =
    (course entry settings simulators tokens).perform entry
  /-- Nothing is raised that leaves the process, and what the program leaves behind is consistent,
  whatever expressible outcome the simulator comes to. -/
  consistent : ∀ invocations result,
    (course entry settings simulators tokens).Yields invocations result →
      (∀ invocation ∈ invocations, IsExpressible invocation.outcome) →
        ∃ transcript, result = .ok transcript ∧ transcript.IsConsistent invocations
  /-- An entry point whose options cannot be named comes to the code 3 at once. -/
  unnamed : ∀ fault, Runner.ofEntry entry settings simulators = .error fault →
    ∃ transcript, transcript.status.code = 3 ∧
      guarded entry settings simulators tokens = pure (.ok transcript)
  /-- A command line that is refused comes to its code at once. -/
  rejected : ∀ invocations transcript,
    (course entry settings simulators tokens).Yields invocations (.ok transcript) →
      transcript.status.code = 2 → guarded entry settings simulators tokens = pure (.ok transcript)
  /-- What a program writes that succeeds is the output of its run. -/
  succeeded : ∀ invocations transcript,
    (course entry settings simulators tokens).Yields invocations (.ok transcript) →
      transcript.status.code = 0 → ∃ runner exit,
        Runner.ofEntry entry settings simulators = .ok runner ∧
          (runner.course tokens).Yields invocations (.ok exit) ∧ transcript.output = exit.output
  /-- On the simulator that runs the entry point itself, a program is interrupted if and only if the
  entry point is, which comes to what is expressible. -/
  inProcess : ∀ name arguments conclude,
    course entry settings simulators tokens = .simulated name .inProcess arguments conclude →
      ∃ finish : Except Raised Value → Except Raised Transcript,
        guarded entry settings simulators tokens = finish <$> entry.body arguments ∧
          ∀ outcome, IsExpressible outcome → ∃ transcript, finish outcome = .ok transcript ∧
            (transcript.status.code = 130 ↔ ∃ text, outcome = .error (.interrupt text))

/-- **Every process ends with a code that agrees with what it writes**, as long as every text is had that
is asked for. The standard error is empty for a success only, the standard output for anything else, and
an interruption has a code of its own. -/
theorem guarded_consistent [LawfulMonad m] (entry : Entry m) (settings : Settings)
    (simulators : List (String × Simulator m)) (tokens : List String) :
    Bounded entry settings simulators tokens where
  performed := guarded_eq_perform entry settings simulators tokens
  consistent _ _ yields expressible := isConsistent_of_yields yields expressible
  unnamed fault failed := ⟨unnamed fault, rfl, guarded_of_fault failed tokens⟩
  rejected _ _ yields code := guarded_of_rejected yields code
  succeeded := by
    intro invocations transcript yields code
    obtain ⟨runner, exit, made, comes, rfl⟩ := exists_leads_of_yields yields (by simp [code])
    exact ⟨runner, exit, made, comes, rfl⟩
  inProcess := by
    intro name arguments conclude simulated
    refine ⟨_, ?_, fun _ expressible => interrupted_iff_of_inProcess simulated expressible⟩
    rw [guarded_eq_perform, simulated, Course.perform, Simulator.run_inProcess]
    exact (comp_map _ conclude _).symm

end Program

/-- An entry point that writes down the values with which it is called, and then is interrupted. -/
def Entry.aborted : Entry (StateM (List Arguments)) where
  name := "Abort"
  parameters := Entry.coins.parameters
  body arguments := do
    modify (· ++ [arguments])
    pure (.error (.interrupt ""))

/-- It is interrupted once it is called, and not called by a command line that is refused. -/
theorem Program.guarded_consistent_aborted :
    (∀ tokens, Bounded .aborted {} Simulator.standard tokens) ∧
      IsExpressible (.error (.interrupt "")) ∧
      guarded .aborted {} Simulator.standard ["-c", "3", "--fair"] [] =
        (.ok ⟨.interrupted, "", "\nAborted by user.\n"⟩,
          [[("coinCount", .int 3), ("fair", .bool true)]]) ∧
      guarded .aborted {} Simulator.standard ["-c", "3"] [] =
        (.ok ⟨.rejected, "", "Error: Missing required option(s): --fair\n"
          ++ "Hint: Run with --help to list the available options.\n"⟩, []) ∧
      guarded .aborted {} Simulator.standard ["--version"] [] =
        (.ok ⟨.success, "Abort " ++ libraryVersion ++ "\n", ""⟩, []) ∧
      guarded .aborted { defaultSimulator := "remote" } Simulator.standard ["--version"] [] =
        (.ok (unnamed (.unregisteredDefault "remote" ["local"])), []) :=
  ⟨guarded_consistent .aborted {} Simulator.standard, .raised ⟨"", rfl⟩, rfl, rfl, rfl, rfl⟩

/-- Programs that end with what is raised: one whose failure has no text however often it is asked for,
and one that returns an object that cannot be shown, for a failure that has no text. An error of a schema
that an entry point raises is a failed invocation. -/
theorem Program.guarded_escapes :
    guarded (.raising (.mute 3)) {} Simulator.standard [] = .error (.mute 0) ∧
      guarded (.constant (.scalar .int) (.object "Blank" (.error (.raised (.mute 1))))) {}
        Simulator.standard [] = .error (.mute 0) ∧
      guarded (.raising (.error (.plain .schema "x" none) none)) {} Simulator.standard [] =
        .ok ⟨.failed, "", "Error: x\n"⟩ :=
  ⟨rfl, rfl, rfl⟩

end Argline
