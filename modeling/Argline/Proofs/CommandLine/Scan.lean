/-
**What a scan of a command line does.**

Segments are carried out one after another, each by one action, until one fails.

* `CommandLine.marks`, `CommandLine.occurrences`: the options given on a command line, and how often;
* `Segment.Gives`: the tokens that a segment gives its option;
* `Target.slot`: the slot in which an option stores its value;
* `Command.Fails`, `Command.fails_of_perform`: the ways in which an action fails;
* `Command.performSegments_ok`: what segments leave behind that are carried out;
* `Command.exists_serves_of_parse`: what an accepted command line stores;
* `Command.Declines`, `Command.declines_of_parse`: the ways in which a command line is not read.
-/

import Argline.Proofs.CommandLine.Acceptance

namespace Argline

/-! ### The options given on a command line -/

/-- The texts that a segment may give its option: the tokens behind the flag and the inline argument. -/
def Segment.texts (segment : Segment) : List String :=
  segment.tokens ++ segment.mark.inline.toList

theorem Segment.Splits.taken_subset {segment : Segment} {taken left : List String}
    (splits : segment.Splits taken left) : taken ⊆ segment.texts := by
  obtain ⟨⟨flag, target, inline⟩, tokens⟩ := segment
  intro text member
  cases inline with
  | none =>
    have whole : taken ++ left = tokens := splits
    exact List.mem_append_left _ (whole ▸ List.mem_append_left _ member)
  | some argument =>
    obtain ⟨rfl, _⟩ := splits
    unfold inlineTokens at member
    split at member
    · cases member
    · exact List.mem_append_right _ member

namespace CommandLine

variable (table : List (String × Target)) (tokens : List String)

/-- The options given on a command line. -/
def marks : List Mark := (tokens.takeWhile (· != terminator)).filterMap (Mark.ofToken? table)

/-- How often an option is given on a command line. -/
def occurrences (target : Target) : Nat := (marks table tokens).countP (·.target = target)

/-- The texts that a command line consists of: its tokens and the inline arguments in them. -/
def texts : List String := tokens ++ (marks table tokens).filterMap Mark.inline

variable {table tokens}

theorem map_mark_cut (tokens : List String) :
    (cut table tokens).2.map Segment.mark = tokens.filterMap (Mark.ofToken? table) := by
  induction tokens with
  | nil => rfl
  | cons token rest ih =>
    rw [cut]
    cases marked : Mark.ofToken? table token with
    | none => simp [marked, ih]
    | some mark => simp [marked, ih]

theorem map_mark_segments :
    (ofTokens table tokens).segments.map Segment.mark = marks table tokens :=
  map_mark_cut _

/-- The tokens in front of the first `--` are those of the segments behind the leading ones. -/
theorem takeWhile_eq_spelling (table : List (String × Target)) (tokens : List String) :
    tokens.takeWhile (· != terminator) = (ofTokens table tokens).leading ++
      (ofTokens table tokens).segments.flatMap Segment.spelling :=
  ((cut_eq_iff _ _ _).mp rfl).1

theorem leading_subset : (ofTokens table tokens).leading ⊆ tokens := by
  intro token member
  have inside : token ∈ tokens.takeWhile (· != terminator) := by
    rw [takeWhile_eq_spelling table]
    exact List.mem_append_left _ member
  exact (List.takeWhile_sublist _).subset inside

theorem trailing_subset : (ofTokens table tokens).trailing ⊆ tokens :=
  (List.dropWhile_sublist _).subset

variable {segment : Segment} (member : segment ∈ (ofTokens table tokens).segments)

include member

theorem mark_mem_marks : segment.mark ∈ marks table tokens :=
  map_mark_segments ▸ List.mem_map_of_mem member

theorem tokens_subset_of_mem : segment.tokens ⊆ tokens := by
  intro token inTokens
  have inside : token ∈ tokens.takeWhile (· != terminator) := by
    rw [takeWhile_eq_spelling table]
    exact List.mem_append_right _ (List.mem_flatMap_of_mem member (List.mem_cons_of_mem _ inTokens))
  exact (List.takeWhile_sublist _).subset inside

/-- The texts of a segment are texts of its command line. -/
theorem texts_subset_of_mem : segment.texts ⊆ texts table tokens := by
  intro text inTexts
  rcases List.mem_append.mp inTexts with behind | inline
  · exact List.mem_append_left _ (tokens_subset_of_mem member behind)
  · refine List.mem_append_right _ (List.mem_filterMap.mpr ⟨_, mark_mem_marks member, ?_⟩)
    exact Option.mem_toList.mp inline

/-- Every segment bears a flag that stands for its option. -/
theorem lookup_of_mem : table.lookup segment.mark.flag = some segment.mark.target :=
  (((cut_eq_iff _ _ _).mp rfl).2.2 segment member).lookup

end CommandLine

/-! ### Actions -/

/-- The tokens that a segment gives its option: those of the first of its actions. -/
def Segment.Gives (table : List (String × Target)) (segment : Segment) (taken : List String) : Prop :=
  ∃ others left,
    segment.actions table = .ok (⟨segment.mark.flag, segment.mark.target, taken⟩ :: others, left)

/-- A segment gives its option texts of its own. -/
theorem Segment.Gives.subset {table : List (String × Target)} {segment : Segment}
    {taken : List String} (gives : segment.Gives table taken) : taken ⊆ segment.texts := by
  obtain ⟨others, left, took⟩ := gives
  rcases Command.actions_of_segment took with ⟨own, splits, same⟩ | ⟨_, more, same⟩
  · cases same
    exact splits.taken_subset
  · cases same
    exact List.nil_subset _

/-- The slot in which an option stores its value. -/
def Target.slot : Target → String
  | .parameter option => option.parameter.name
  | .builtin _ => simulatorSlot

/-- A built-in option that takes a token takes a value. -/
theorem takesValue_of_arity {option : BuiltinOption}
    (takes : (Target.builtin option).arity.isSome = true) : option.builtin.takesValue = true := by
  by_contra none
  simp [Target.arity, none] at takes

/-- A failure to read a value, as what stops the reading of a command line. -/
def Halt.stop : Halt Rejection → Halt Stop
  | .refused rejection => .refused (.rejected rejection)
  | .broken breakage => .broken breakage

theorem orReject_error {α : Type} (cause : Halt Rejection) :
    orReject (.error cause : Except (Halt Rejection) α) = .error cause.stop := by
  cases cause <;> rfl

namespace Command

variable {command : Command} {slots : Slots} {halt : Halt Stop}

theorem Stores.slot {target : Target} {tokens : List String} {entry : String × Value}
    (stores : command.Stores target tokens entry) : entry.1 = target.slot := by
  cases stores <;> rfl

/-- The ways in which an action fails. -/
inductive Fails (command : Command) (slots : Slots) (action : Action) : Halt Stop → Prop
  /-- There is a value in the slot of the option. -/
  | repeated (takes : action.target.arity.isSome = true)
    (taken : slots.contains action.target.slot = true) :
    Fails command slots action (.refused (.rejected (.repeated action.flag)))
  /-- The tokens are no value of the parameter's type. -/
  | unread {option : ParameterOption} {cause : Halt Rejection}
    (stands : action.target = .parameter option)
    (unread : Value.ofTokens option.parameter.type action.tokens = .error cause) :
    Fails command slots action cause.stop
  /-- The token is no simulator. -/
  | unselected (given : Given) : Fails command slots action
      (.refused (.rejected (.unreadable (.simulator command.simulators) given)))
  /-- A text is asked for. -/
  | requested {key : String} {request : Request} (takes : action.target.arity = none)
    (answered : command.request key = .ok request) :
    Fails command slots action (.refused (.requested request))
  /-- A text is asked for that cannot be made. -/
  | unanswered {key : String} {breakage : Breakage}
    (unanswered : command.request key = .error breakage) :
    Fails command slots action (.broken breakage)

theorem exists_given_of_selectSimulator {tokens : List String}
    (failed : command.selectSimulator tokens = .error halt) :
    ∃ given, halt = .refused (.rejected (.unreadable (.simulator command.simulators) given)) := by
  unfold selectSimulator at failed
  split at failed
  · split at failed <;> cases failed
    exact ⟨_, rfl⟩
  · cases failed
    exact ⟨_, rfl⟩

/-- **An action fails in one of these ways.** -/
theorem fails_of_perform {action : Action} (failed : command.perform slots action = .error halt) :
    command.Fails slots action halt := by
  obtain ⟨flag, target, tokens⟩ := action
  cases target with
  | parameter option =>
    simp only [perform] at failed
    split at failed
    · next taken =>
      cases failed
      exact .repeated rfl taken
    · rw [bind_eq_error_iff] at failed
      rcases failed with failed | ⟨value, _, stored⟩
      · cases read : Value.ofTokens option.parameter.type tokens with
        | ok value =>
          rw [read] at failed
          cases failed
        | error cause =>
          rw [read, orReject_error] at failed
          cases failed
          exact .unread rfl read
      · cases stored
  | builtin option =>
    simp only [perform] at failed
    split at failed
    · next takes =>
      split at failed
      · next taken =>
        cases failed
        exact .repeated (by simp [Target.arity, takes]) taken
      · rw [bind_eq_error_iff] at failed
        rcases failed with failed | ⟨value, _, stored⟩
        · obtain ⟨given, rfl⟩ := exists_given_of_selectSimulator failed
          exact .unselected given
        · cases stored
    · next takes =>
      rw [bind_eq_error_iff] at failed
      rcases failed with failed | ⟨request, answered, asked⟩
      · cases answered : command.request option.builtin.key with
        | ok request =>
          rw [answered] at failed
          cases failed
        | error breakage =>
          rw [answered] at failed
          cases failed
          exact .unanswered answered
      · cases asked
        exact .requested (by simp [Target.arity, takes]) ((orBreak_eq_ok_iff _ _).mp answered)

/-! ### Segments -/

/-- An option that takes no token stores no value. -/
theorem perform_ne_ok_of_arity {action : Action} (takes : action.target.arity = none)
    (next : Slots) : command.perform slots action ≠ .ok next := by
  intro performed
  obtain ⟨entry, stores, _⟩ := (perform_eq_ok_iff _ _ _).mp performed
  obtain ⟨arity, takes', _⟩ := stores.admits
  rw [takes] at takes'
  cases takes'

/-- A segment and the value that its option stores for the tokens that it takes. -/
def Serves (command : Command) (segment : Segment) (entry : String × Value) : Prop :=
  ∃ taken left, segment.actions command.schema.table =
      .ok ([⟨segment.mark.flag, segment.mark.target, taken⟩], left) ∧
    command.Stores segment.mark.target taken entry

/-- **A segment that is carried out stores one value**, and leaves some of its tokens. -/
theorem performSegment_ok {next : Slots} {left left' : List String} {segment : Segment}
    (performed : command.performSegment (slots, left) segment = .ok (next, left')) :
    ∃ entry, command.Serves segment entry ∧ next = slots.insert entry.1 entry.2 ∧
      ∃ more, more ⊆ segment.tokens ∧ left' = left ++ more := by
  unfold performSegment at performed
  split at performed
  · cases performed
  · next actions more took =>
    obtain ⟨last, folded, equal⟩ := bind_eq_ok_iff.mp performed
    cases equal
    rcases actions_of_segment took with ⟨taken, splits, rfl⟩ | ⟨takes, others, rfl⟩
    · rw [List.foldlM_cons] at folded
      obtain ⟨_, first, same⟩ := bind_eq_ok_iff.mp folded
      cases same
      obtain ⟨entry, stores, _, stored⟩ := (perform_eq_ok_iff _ _ _).mp first
      exact ⟨entry, ⟨taken, more, took, stores⟩, stored, more, splits.left_subset, rfl⟩
    · rw [List.foldlM_cons] at folded
      obtain ⟨_, first, _⟩ := bind_eq_ok_iff.mp folded
      exact absurd first (perform_ne_ok_of_arity takes _)

/-- A segment fails by the misuse of an option, or by its first action. -/
theorem performSegment_error {left : List String} {segment : Segment}
    (failed : command.performSegment (slots, left) segment = .error halt) :
    (∃ flags misuse, halt = .refused (.rejected (.misused flags misuse command.advice))) ∨
      ∃ taken, segment.Gives command.schema.table taken ∧
        command.Fails slots ⟨segment.mark.flag, segment.mark.target, taken⟩ halt := by
  unfold performSegment at failed
  split at failed
  · cases failed
    exact .inl ⟨_, _, rfl⟩
  · next actions more took =>
    rcases bind_eq_error_iff.mp failed with folded | ⟨_, _, left⟩
    · refine .inr ?_
      rcases actions_of_segment took with ⟨taken, splits, rfl⟩ | ⟨takes, others, rfl⟩
      · rw [List.foldlM_cons] at folded
        rcases bind_eq_error_iff.mp folded with first | ⟨_, _, last⟩
        · exact ⟨taken, ⟨_, _, took⟩, fails_of_perform first⟩
        · cases last
      · rw [List.foldlM_cons] at folded
        rcases bind_eq_error_iff.mp folded with first | ⟨_, first, _⟩
        · exact ⟨[], ⟨_, _, took⟩, fails_of_perform first⟩
        · exact absurd first (perform_ne_ok_of_arity takes _)
    · cases left

/-- **Segments that are carried out store one value each**, and leave tokens of theirs. -/
theorem performSegments_ok {segments : List Segment} {final : Slots} {left left' : List String}
    (performed : segments.foldlM command.performSegment (slots, left) = .ok (final, left')) :
    ∃ entries, List.Forall₂ command.Serves segments entries ∧
      final = ⟨slots.entries ++ entries⟩ ∧
      ∀ token ∈ left', token ∈ left ∨ ∃ segment ∈ segments, token ∈ segment.tokens := by
  induction segments generalizing slots left with
  | nil =>
    cases performed
    exact ⟨[], .nil, by simp, fun token member => .inl member⟩
  | cons segment rest ih =>
    rw [List.foldlM_cons] at performed
    obtain ⟨⟨next, middle⟩, first, others⟩ := bind_eq_ok_iff.mp performed
    obtain ⟨entry, serves, rfl, more, shown, rfl⟩ := performSegment_ok first
    obtain ⟨entries, served, rfl, origin⟩ := ih others
    refine ⟨entry :: entries, .cons serves served, by simp [Slots.insert], ?_⟩
    intro token member
    rcases origin token member with early | ⟨other, inRest, behind⟩
    · rcases List.mem_append.mp early with early | here
      · exact .inl early
      · exact .inr ⟨segment, List.mem_cons_self, shown here⟩
    · exact .inr ⟨other, List.mem_cons_of_mem _ inRest, behind⟩

theorem Serves.arity {segment : Segment} {entry : String × Value}
    (serves : command.Serves segment entry) : segment.mark.target.arity.isSome = true := by
  obtain ⟨taken, left, _, stores⟩ := serves
  obtain ⟨arity, takes, _⟩ := stores.admits
  exact Option.isSome_of_eq_some takes

theorem Serves.slot {segment : Segment} {entry : String × Value}
    (serves : command.Serves segment entry) : segment.mark.target.slot = entry.1 := by
  obtain ⟨taken, left, _, stores⟩ := serves
  exact stores.slot.symm

/-- What is stored is stored by one of the segments. -/
theorem exists_serves_of_mem {segments : List Segment} {entries : List (String × Value)}
    (served : List.Forall₂ command.Serves segments entries) {entry : String × Value}
    (member : entry ∈ entries) : ∃ segment ∈ segments, command.Serves segment entry :=
  exists_mem_of_forall₂ served.flip member

/-- What is kept under a name is stored by one of the segments. -/
theorem exists_serves_of_get? {segments : List Segment} {entries : List (String × Value)}
    (served : List.Forall₂ command.Serves segments entries) {dropped name : String} {value : Value}
    (stored : (Slots.erase ⟨entries⟩ dropped).get? name = some value) :
    ∃ segment ∈ segments, command.Serves segment (name, value) :=
  exists_serves_of_mem served (List.mem_filter.mp (mem_of_lookup_eq_some stored)).1

/-- A name that is taken behind some segments is reserved, or the slot of one of them. -/
theorem exists_of_contains {segments : List Segment} {entries : List (String × Value)}
    (served : List.Forall₂ command.Serves segments entries) {name : String}
    (taken : Slots.contains ⟨entries⟩ name = true) :
    name ∈ reservedNames ∨ ∃ segment ∈ segments, segment.mark.target.arity.isSome = true ∧
      segment.mark.target.slot = name := by
  refine ((Slots.contains_iff _ _).mp taken).imp_right fun stored => ?_
  obtain ⟨entry, member, rfl⟩ := List.mem_map.mp stored
  obtain ⟨segment, inSegments, serves⟩ := exists_serves_of_mem served member
  exact ⟨segment, inSegments, serves.arity, serves.slot⟩

/-! ### Command lines -/

/-- What a scan comes to: a value for each segment, and tokens left over. -/
theorem exists_serves_of_scan {tokens left : List String}
    (scanned : command.scan tokens = .ok (slots, left)) :
    ∃ entries, List.Forall₂ command.Serves
        (CommandLine.ofTokens command.schema.table tokens).segments entries ∧
      slots = ⟨entries⟩ ∧ left ⊆ tokens := by
  obtain ⟨⟨final, more⟩, folded, equal⟩ := bind_eq_ok_iff.mp scanned
  cases equal
  obtain ⟨entries, served, rfl, origin⟩ := performSegments_ok folded
  refine ⟨entries, served, rfl, fun token member => ?_⟩
  rcases List.mem_append.mp member with early | late
  · rcases origin token early with leading | ⟨segment, inSegments, behind⟩
    · exact CommandLine.leading_subset leading
    · exact CommandLine.tokens_subset_of_mem inSegments behind
  · exact CommandLine.trailing_subset late

/-- **An accepted command line stores a value for each of its segments**, and for every parameter. -/
theorem exists_serves_of_parse {tokens : List String} {call : Call}
    (parsed : command.parse tokens = .ok call) :
    ∃ entries, List.Forall₂ command.Serves
        (CommandLine.ofTokens command.schema.table tokens).segments entries ∧
      command.missing (Slots.erase ⟨entries⟩ surplusSlot) = [] ∧
      call = command.call (Slots.erase ⟨entries⟩ surplusSlot) := by
  obtain ⟨⟨slots, left⟩, scanned, judged⟩ := bind_eq_ok_iff.mp parsed
  obtain ⟨surplus, _, decided⟩ := bind_eq_ok_iff.mp judged
  obtain ⟨entries, served, rfl, _⟩ := exists_serves_of_scan scanned
  split at decided
  · dsimp only at decided
    split at decided
    · next present =>
      cases decided
      exact ⟨entries, served, List.isEmpty_iff.mp present, rfl⟩
    · cases decided
  · obtain ⟨texts, _, rejected⟩ := bind_eq_ok_iff.mp decided
    cases rejected

/-- The ways in which a command line is not read. -/
inductive Declines (command : Command) (tokens : List String) : Halt Stop → Prop
  /-- An option is not given the tokens it takes. -/
  | misused {flags : List String} {misuse : Misuse} :
    Declines command tokens (.refused (.rejected (.misused flags misuse command.advice)))
  /-- Behind some segments there is a value in the slot of the next one. -/
  | repeated {front back : List Segment} {segment : Segment} {entries : List (String × Value)}
    (cut : (CommandLine.ofTokens command.schema.table tokens).segments = front ++ segment :: back)
    (served : List.Forall₂ command.Serves front entries)
    (takes : segment.mark.target.arity.isSome = true)
    (taken : Slots.contains ⟨entries⟩ segment.mark.target.slot = true) :
    Declines command tokens (.refused (.rejected (.repeated segment.mark.flag)))
  /-- What a segment gives its option is no value of the parameter's type. -/
  | unread {segment : Segment} {option : ParameterOption} {taken : List String}
    {rejection : Rejection}
    (member : segment ∈ (CommandLine.ofTokens command.schema.table tokens).segments)
    (stands : segment.mark.target = .parameter option)
    (gives : segment.Gives command.schema.table taken)
    (unread : Value.ofTokens option.parameter.type taken = .error (.refused rejection)) :
    Declines command tokens (.refused (.rejected rejection))
  /-- Reading what a segment gives its option breaks off. -/
  | overlong {segment : Segment} {option : ParameterOption} {taken : List String}
    {breakage : Breakage}
    (member : segment ∈ (CommandLine.ofTokens command.schema.table tokens).segments)
    (stands : segment.mark.target = .parameter option)
    (gives : segment.Gives command.schema.table taken)
    (unread : Value.ofTokens option.parameter.type taken = .error (.broken breakage)) :
    Declines command tokens (.broken breakage)
  /-- A token is no simulator. -/
  | unselected {given : Given} : Declines command tokens
      (.refused (.rejected (.unreadable (.simulator command.simulators) given)))
  /-- Behind some segments, the next one asks for a text. -/
  | requested {front back : List Segment} {segment : Segment} {entries : List (String × Value)}
    {key : String} {request : Request}
    (cut : (CommandLine.ofTokens command.schema.table tokens).segments = front ++ segment :: back)
    (served : List.Forall₂ command.Serves front entries)
    (takes : segment.mark.target.arity = none) (answered : command.request key = .ok request) :
    Declines command tokens (.refused (.requested request))
  /-- A text is asked for that cannot be made. -/
  | unanswered {key : String} {breakage : Breakage}
    (unanswered : command.request key = .error breakage) :
    Declines command tokens (.broken breakage)
  /-- The value in the surplus slot cannot be taken apart. -/
  | surplus {slots : Slots} {left : List String} {breakage : Breakage}
    (scanned : command.scan tokens = .ok (slots, left)) (failed : slots.surplus = .error breakage) :
    Declines command tokens (.broken breakage)
  /-- The value in the surplus slot has parts that are no texts. -/
  | notText {slots : Slots} {left : List String} {surplus : List Value} {breakage : Breakage}
    (scanned : command.scan tokens = .ok (slots, left)) (taken : slots.surplus = .ok surplus)
    (failed : textsFrom left.length surplus = .error breakage) :
    Declines command tokens (.broken breakage)
  /-- There are tokens left over. -/
  | unrecognized {slots : Slots} {left : List String} {surplus : List Value} {texts : List String}
    (scanned : command.scan tokens = .ok (slots, left)) (taken : slots.surplus = .ok surplus)
    (shown : textsFrom left.length surplus = .ok texts) :
    Declines command tokens (.refused (.rejected (.unrecognized (left ++ texts) command.advice)))
  /-- A parameter has no value. -/
  | missing {slots : Slots} {left : List String}
    (scanned : command.scan tokens = .ok (slots, left)) :
    Declines command tokens (.refused (.rejected
      (.missingOptions (command.missing (slots.erase surplusSlot)) command.advice)))

/-- An action that fails behind some segments is a way in which a command line is not read. -/
theorem Fails.declines {tokens taken : List String} {front back : List Segment} {segment : Segment}
    {entries : List (String × Value)}
    (fails : command.Fails ⟨entries⟩ ⟨segment.mark.flag, segment.mark.target, taken⟩ halt)
    (cut : (CommandLine.ofTokens command.schema.table tokens).segments = front ++ segment :: back)
    (served : List.Forall₂ command.Serves front entries)
    (gives : segment.Gives command.schema.table taken) :
    command.Declines tokens halt := by
  have member : segment ∈ (CommandLine.ofTokens command.schema.table tokens).segments :=
    cut ▸ List.mem_append_right _ List.mem_cons_self
  cases fails with
  | repeated takes taken => exact .repeated cut served takes taken
  | @unread option cause stands unread =>
    cases cause with
    | refused rejection => exact .unread member stands gives unread
    | broken breakage => exact .overlong member stands gives unread
  | unselected given => exact .unselected
  | requested takes answered => exact .requested cut served takes answered
  | unanswered unanswered => exact .unanswered unanswered

/-- A scan fails at a segment behind others that are carried out. -/
theorem declines_of_scan {tokens : List String} (failed : command.scan tokens = .error halt) :
    command.Declines tokens halt := by
  rcases bind_eq_error_iff.mp failed with folded | ⟨_, _, last⟩
  · obtain ⟨front, segment, back, ⟨slots, left⟩, cut, before, here⟩ :=
      foldlM_eq_error_iff.mp folded
    obtain ⟨entries, served, rfl, _⟩ := performSegments_ok before
    rcases performSegment_error here with ⟨flags, misuse, rfl⟩ | ⟨taken, gives, fails⟩
    · exact .misused
    · exact fails.declines cut served gives
  · cases last

theorem orBreak_eq_error_iff {ε α : Type} {stage : Except Breakage α} {halt : Halt ε} :
    orBreak stage = .error halt ↔ ∃ breakage, stage = .error breakage ∧ halt = .broken breakage := by
  cases stage <;> simp [orBreak, eq_comm]

/-- **A command line is not read for one of these causes.** -/
theorem declines_of_parse {tokens : List String} (failed : command.parse tokens = .error halt) :
    command.Declines tokens halt := by
  rcases bind_eq_error_iff.mp failed with unscanned | ⟨⟨slots, left⟩, scanned, judged⟩
  · exact declines_of_scan unscanned
  rcases bind_eq_error_iff.mp judged with broken | ⟨surplus, taken, decided⟩
  · obtain ⟨breakage, unparted, rfl⟩ := orBreak_eq_error_iff.mp broken
    exact .surplus scanned unparted
  rw [orBreak_eq_ok_iff] at taken
  split at decided
  · dsimp only at decided
    split at decided
    · cases decided
    · cases decided
      exact .missing scanned
  · rcases bind_eq_error_iff.mp decided with broken | ⟨texts, shown, rejected⟩
    · obtain ⟨breakage, unshown, rfl⟩ := orBreak_eq_error_iff.mp broken
      exact .notText scanned taken unshown
    · cases rejected
      exact .unrecognized scanned taken ((orBreak_eq_ok_iff _ _).mp shown)

end Command

end Argline
