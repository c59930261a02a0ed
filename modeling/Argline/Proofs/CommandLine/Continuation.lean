/-
**Command lines that go on.**

A command line is read from its front. What comes behind some tokens does not change how these are
read, as long as it does not begin with a token for the last option in them.

* `CommandLine.BeginsAnew`, `CommandLine.ofTokens_append`: such tokens are cut apart from those in front
  of them;
* `Command.Offends`: the ways in which the option of a segment fails behind others;
* `Command.parse_append_error`: the first segment that fails has the command line refused, whatever
  comes behind it.
-/

import Argline.Proofs.CommandLine.Scan

namespace Argline

namespace CommandLine

variable {table : List (String × Target)}

/-- Tokens the first of which belongs to no option in front of them: they begin with an option or with
`--`, or there are none. -/
def BeginsAnew (table : List (String × Target)) (tokens : List String) : Prop :=
  ∀ token ∈ tokens.head?, token = terminator ∨ (Mark.ofToken? table token).isSome = true

theorem BeginsAnew.leading {tokens : List String} (anew : BeginsAnew table tokens) :
    (ofTokens table tokens).leading = [] := by
  cases tokens with
  | nil => rfl
  | cons token rest =>
    rcases anew token rfl with rfl | marked
    · rfl
    · obtain ⟨mark, marked⟩ := Option.isSome_iff_exists.mp marked
      by_cases ends : token = terminator
      · subst ends
        rfl
      · simp [ofTokens, ends, cut, marked]

/-- **What begins anew is cut apart from what comes before it.** -/
theorem ofTokens_append {front back : List String} (unterminated : terminator ∉ front)
    (anew : BeginsAnew table back) :
    ofTokens table (front ++ back) = {
      leading := (ofTokens table front).leading
      segments := (ofTokens table front).segments ++ (ofTokens table back).segments
      trailing := (ofTokens table back).trailing } := by
  have others := bne_of_notMem unterminated
  obtain ⟨before, plain, isCut⟩ := (cut_eq_iff front _ _).mp rfl
  obtain ⟨behind, _, isCut'⟩ := (cut_eq_iff (back.takeWhile (· != terminator)) _ _).mp
    (Prod.ext anew.leading rfl)
  have joined := (cut_eq_iff (front ++ back.takeWhile (· != terminator)) (cut table front).1
    ((cut table front).2 ++ (ofTokens table back).segments)).mpr ⟨?_, plain, ?_⟩
  · simp only [ofTokens, List.takeWhile_append_of_pos others, List.dropWhile_append_of_pos others,
      takeWhile_ne_of_notMem unterminated] at joined ⊢
    rw [joined]
  · rw [List.flatMap_append, ← List.append_assoc, ← before]
    exact congrArg _ behind
  · intro segment member
    rcases List.mem_append.mp member with early | late
    · exact isCut segment early
    · exact isCut' segment late

/-- A segment is cut apart from what begins anew behind it. -/
theorem ofTokens_spelling_append {segment : Segment} (isCut : segment.IsCut table)
    (unterminated : terminator ∉ segment.spelling) {back : List String}
    (anew : BeginsAnew table back) :
    ofTokens table (segment.spelling ++ back) =
      ⟨[], segment :: (ofTokens table back).segments, (ofTokens table back).trailing⟩ := by
  have alone : Spells table [segment] segment.spelling := ⟨by simp, by simpa using isCut, unterminated⟩
  rw [ofTokens_append unterminated anew, (ofTokens_eq_iff _ _).mpr alone]
  rfl

/-- Behind a token that is read as an option its segment begins. -/
theorem exists_segments_cons {token : String} (goesOn : token ≠ terminator) {mark : Mark}
    (marked : Mark.ofToken? table token = some mark) (back : List String) :
    ∃ tokens others, (ofTokens table (token :: back)).segments = ⟨mark, tokens⟩ :: others := by
  simp [ofTokens, goesOn, cut, marked]

end CommandLine

namespace Command

variable {command : Command}

/-- The ways in which the option of a segment fails behind values that are stored already. -/
inductive Offends (command : Command) (slots : Slots) (segment : Segment) : Halt Stop → Prop
  /-- The option is not given the tokens it takes. -/
  | misused {target : Target} {misuse : Misuse}
    (misused : segment.actions command.schema.table = .error (target, misuse)) :
    Offends command slots segment
      (.refused (.rejected (.misused target.flags misuse command.advice)))
  /-- There is a value in the slot of the option. -/
  | repeated {taken left : List String}
    (acts : segment.actions command.schema.table =
      .ok ([⟨segment.mark.flag, segment.mark.target, taken⟩], left))
    (takes : segment.mark.target.arity.isSome = true)
    (filled : slots.contains segment.mark.target.slot = true) :
    Offends command slots segment (.refused (.rejected (.repeated segment.mark.flag)))
  /-- The tokens that the option of a parameter takes are no value of the parameter's type. -/
  | unread {option : ParameterOption} {taken left : List String} {cause : Halt Rejection}
    (acts : segment.actions command.schema.table =
      .ok ([⟨segment.mark.flag, segment.mark.target, taken⟩], left))
    (stands : segment.mark.target = .parameter option)
    (free : slots.contains option.parameter.name = false)
    (unread : Value.ofTokens option.parameter.type taken = .error cause) :
    Offends command slots segment cause.stop
  /-- The token that the simulator's option takes is no simulator. -/
  | unselected {option : BuiltinOption} {taken left : List String} {halt : Halt Stop}
    (acts : segment.actions command.schema.table =
      .ok ([⟨segment.mark.flag, segment.mark.target, taken⟩], left))
    (stands : segment.mark.target = .builtin option) (takes : option.builtin.takesValue = true)
    (free : slots.contains simulatorSlot = false)
    (unselected : command.selectSimulator taken = .error halt) :
    Offends command slots segment halt

/-- A segment of one action fails as the action does. -/
theorem performSegment_of_perform {slots : Slots} {segment : Segment} {action : Action}
    {left : List String} {halt : Halt Stop}
    (acts : segment.actions command.schema.table = .ok ([action], left))
    (fails : command.perform slots action = .error halt) (before : List String) :
    command.performSegment (slots, before) segment = .error halt := by
  simp only [performSegment, acts, List.foldlM_cons, fails]
  rfl

/-- **A segment that offends fails.** -/
theorem Offends.performSegment_eq {slots : Slots} {segment : Segment} {halt : Halt Stop}
    (offends : command.Offends slots segment halt) (left : List String) :
    command.performSegment (slots, left) segment = .error halt := by
  cases offends with
  | misused misused =>
    rw [performSegment, misused]
    rfl
  | repeated acts takes filled =>
    refine performSegment_of_perform acts ?_ left
    cases target : segment.mark.target with
    | parameter option =>
      rw [target] at filled
      exact if_pos filled
    | builtin option =>
      rw [target] at takes filled
      simp only [perform, takesValue_of_arity takes, if_true]
      exact if_pos filled
  | unread acts stands free unread =>
    refine performSegment_of_perform acts ?_ left
    simp only [perform, stands, free, unread, orReject_error]
    rfl
  | unselected acts stands takes free unselected =>
    refine performSegment_of_perform acts ?_ left
    simp only [perform, stands, takes, free, unselected]
    rfl

/-- A flag that asks for a text fails with the request, whatever tokens stand behind it. -/
theorem performSegment_of_request {option : BuiltinOption}
    (asks : option.builtin.takesValue = false) {request : Request}
    (answered : command.request option.builtin.key = .ok request) (flag : String)
    (tokens : List String) (state : Slots × List String) :
    command.performSegment state ⟨⟨flag, .builtin option, none⟩, tokens⟩ =
      .error (.refused (.requested request)) := by
  have acts : Segment.actions command.schema.table ⟨⟨flag, .builtin option, none⟩, tokens⟩ =
      .ok ([⟨flag, .builtin option, []⟩], tokens) := by
    simp [Segment.actions, takeBehind, Target.take, Target.arity, asks]
  refine performSegment_of_perform acts ?_ state.2
  simp only [perform, asks, answered]
  rfl

/-- **The first segment that fails decides**, whatever comes behind it. -/
theorem parse_append_error {front back : List String} (unterminated : CommandLine.terminator ∉ front)
    {state : Slots × List String} (consumed : command.scan front = .ok state)
    (anew : CommandLine.BeginsAnew command.schema.table back) {segment : Segment}
    {others : List Segment}
    (next : (CommandLine.ofTokens command.schema.table back).segments = segment :: others)
    {halt : Halt Stop} (fails : command.performSegment state segment = .error halt) :
    command.parse (front ++ back) = .error halt := by
  obtain ⟨⟨slots, left⟩, performed, equal⟩ := bind_eq_ok_iff.mp consumed
  cases equal
  -- nothing stands behind the segments of the front, so the scan has left what they have left
  have trailing : (CommandLine.ofTokens command.schema.table front).trailing = [] :=
    dropWhile_ne_eq_nil_iff.mpr unterminated
  rw [trailing, List.append_nil] at fails
  refine bind_eq_error_iff.mpr (.inl (bind_eq_error_iff.mpr (.inl ?_)))
  rw [CommandLine.ofTokens_append unterminated anew, next]
  exact foldlM_eq_error_iff.mpr ⟨_, segment, others, _, rfl, performed, fails⟩

end Command

end Argline
