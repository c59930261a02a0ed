/-
**The tokens that no option takes.**

A command line is gone through token by token. An option goes on taking the tokens behind it as long as
it takes any: one at most, or all up to the next option. All other tokens stray, and so does the first
`--` with everything behind it.

* `CommandLine.strays`: the tokens that stray, in their order;
* `CommandLine.strays_eq`: they stand in front of the first segment, behind what the options take in
  their segments, and from the first `--` on;
* `Command.scan_of_serves`: if every option is carried out in a slot of its own, these are the tokens
  left over, and every option has stored its value.
-/

import Argline.Proofs.CommandLine.Scan

namespace Argline

/-! ### Token by token -/

/-- What an option still takes that has taken a token. -/
def Arity.afterOne : Arity → Option Arity
  | .single => none
  | .flag => none
  | .greedy => some .greedy

/-- How many of the tokens behind it an option takes: none behind an inline argument. -/
def Mark.arity (mark : Mark) : Option Arity :=
  match mark.inline with
  | none => mark.target.arity
  | some _ => none

/-- The tokens that stray, behind an option that still takes tokens of a number. -/
def CommandLine.strays (table : List (String × Target)) : Option Arity → List String → List String
  | _, [] => []
  | taking, token :: rest =>
    if token = terminator then token :: rest
    else match Mark.ofToken? table token with
      | some mark => strays table mark.arity rest
      | none =>
        match taking with
        | some arity => strays table arity.afterOne rest
        | none => token :: strays table none rest

/-! ### Segment by segment -/

/-- The tokens that stray of those up to the next option. -/
def Arity.leave : Option Arity → List String → List String
  | none, tokens => tokens
  | some .single, tokens => tokens.tail
  | some .flag, tokens => tokens.tail
  | some .greedy, _ => []

/-- The tokens of a segment that its option does not take. -/
def Segment.left (segment : Segment) : List String := Arity.leave segment.mark.arity segment.tokens

@[simp]
theorem Arity.leave_nil (taking : Option Arity) : leave taking [] = [] := by
  rcases taking with _ | _ | _ | _ <;> rfl

/-- The first token is taken by an option that still takes tokens. -/
theorem Arity.leave_cons (arity : Arity) (token : String) (rest : List String) :
    leave (some arity) (token :: rest) = leave arity.afterOne rest := by
  cases arity <;> rfl

namespace CommandLine

variable {table : List (String × Target)}

/-- **Tokens stray within their segments**, and from the first `--` on. -/
theorem strays_append (taking : Option Arity) {front back : List String}
    (unterminated : terminator ∉ front) (ends : ∀ token ∈ back.head?, token = terminator) :
    strays table taking (front ++ back) = Arity.leave taking (cut table front).1 ++
      (cut table front).2.flatMap Segment.left ++ back := by
  induction front generalizing taking with
  | nil =>
    cases back with
    | nil => simp [strays, cut]
    | cons token rest =>
      obtain rfl := ends token rfl
      simp [strays, cut]
  | cons token rest ih =>
    rw [List.mem_cons, not_or] at unterminated
    obtain ⟨apart, unterminated⟩ := unterminated
    have goesOn : token ≠ terminator := Ne.symm apart
    cases marked : Mark.ofToken? table token with
    | some mark =>
      simp only [List.cons_append, strays, goesOn, if_false, cut, marked, ih mark.arity unterminated,
        Arity.leave_nil, List.nil_append, List.flatMap_cons, Segment.left]
    | none =>
      cases taking with
      | none =>
        simp only [List.cons_append, strays, goesOn, if_false, cut, marked, ih none unterminated,
          Arity.leave]
      | some arity =>
        simp only [List.cons_append, strays, goesOn, if_false, cut, marked,
          ih arity.afterOne unterminated, Arity.leave_cons]

/-- **The tokens that stray**: those in front of the first segment, those that options leave, and those
from the first `--` on. -/
theorem strays_eq (tokens : List String) :
    strays table none tokens = (ofTokens table tokens).leading ++
      (ofTokens table tokens).segments.flatMap Segment.left ++ (ofTokens table tokens).trailing := by
  have whole : strays table none
      (tokens.takeWhile (· != terminator) ++ tokens.dropWhile (· != terminator)) = _ :=
    strays_append none notMem_takeWhile_ne eq_of_head?_dropWhile_ne
  rwa [List.takeWhile_append_dropWhile] at whole

/-- The options given on a command line differ exactly if none is given twice. -/
theorem nodup_targets_iff {tokens : List String} :
    ((ofTokens table tokens).segments.map fun segment => segment.mark.target).Nodup ↔
      ∀ target, occurrences table tokens target ≤ 1 := by
  rw [List.nodup_iff_count_le_one]
  refine forall_congr' fun target => ?_
  rw [occurrences, ← map_mark_segments, List.count, List.countP_map, List.countP_map]
  simp [Function.comp_def, beq_eq_decide]

end CommandLine

/-! ### Options that are carried out -/

theorem Target.left_of_take {target : Target} {tokens taken left : List String}
    (took : target.take tokens = .ok (taken, left)) : left = Arity.leave target.arity tokens := by
  rcases takes : target.arity with _ | _ | _ | _ <;> cases tokens <;>
    simp only [take, takes] at took <;> cases took <;> rfl

namespace Command

variable {command : Command}

/-- An option that stores a value leaves the tokens of its segment that it does not take. -/
theorem Serves.acts {segment : Segment} {entry : String × Value}
    (serves : command.Serves segment entry) : ∃ taken,
      segment.actions command.schema.table =
        .ok ([⟨segment.mark.flag, segment.mark.target, taken⟩], segment.left) ∧
      command.Stores segment.mark.target taken entry := by
  have takes := serves.arity
  obtain ⟨taken, left, acts, stores⟩ := serves
  refine ⟨taken, ?_, stores⟩
  suffices same : left = segment.left by rw [acts, same]
  obtain ⟨⟨flag, target, inline⟩, tokens⟩ := segment
  cases inline with
  | none =>
    have behind : takeBehind flag target tokens = .ok ([⟨flag, target, taken⟩], left) := acts
    unfold takeBehind at behind
    split at behind
    · next taken' left' took =>
      cases behind
      exact Target.left_of_take took
    · cases behind
  | some argument =>
    have inline : takeInline command.schema.table tokens argument.toList flag target =
      .ok ([⟨flag, target, taken⟩], left) := acts
    rw [takeInline_of_arity takes] at inline
    cases inline
    rfl

/-- **A segment is carried out that stores a value in a free slot.** -/
theorem performSegment_of_serves {slots : Slots} {segment : Segment} {entry : String × Value}
    (serves : command.Serves segment entry) (free : slots.contains entry.1 = false)
    (left : List String) :
    command.performSegment (slots, left) segment =
      .ok (slots.insert entry.1 entry.2, left ++ segment.left) := by
  obtain ⟨taken, acts, stores⟩ := serves.acts
  have performed := (perform_eq_ok_iff slots _
    ⟨segment.mark.flag, segment.mark.target, taken⟩).mpr ⟨entry, stores, free, rfl⟩
  simp only [performSegment, acts, List.foldlM_cons, List.foldlM_nil, performed]
  rfl

/-- **Segments are carried out that store values in slots of their own.** -/
theorem performSegments_of_serves {segments : List Segment} {entries : List (String × Value)}
    (served : List.Forall₂ command.Serves segments entries) {slots : Slots}
    (distinct : (entries.map Prod.fst).Nodup)
    (free : ∀ entry ∈ entries, slots.contains entry.1 = false) (left : List String) :
    segments.foldlM command.performSegment (slots, left) =
      .ok (⟨slots.entries ++ entries⟩, left ++ segments.flatMap Segment.left) := by
  induction served generalizing slots left with
  | nil => simp [pure, Except.pure]
  | @cons segment entry segments entries serves _ ih =>
    rw [List.map_cons, List.nodup_cons] at distinct
    rw [List.foldlM_cons, performSegment_of_serves serves (free entry List.mem_cons_self)]
    have free' : ∀ other ∈ entries, (slots.insert entry.1 entry.2).contains other.1 = false := by
      intro other member
      rw [Slots.contains_insert]
      refine ⟨free other (List.mem_cons_of_mem _ member), fun same => distinct.1 ?_⟩
      exact same ▸ List.mem_map_of_mem member
    show segments.foldlM command.performSegment _ = _
    rw [ih distinct.2 free']
    simp [Slots.insert]

/-- **A command line is gone through to its end if each option stores a value in a slot of its own**, and
the tokens that stray are left over. -/
theorem scan_of_serves {tokens : List String} {entries : List (String × Value)}
    (served : List.Forall₂ command.Serves
      (CommandLine.ofTokens command.schema.table tokens).segments entries)
    (distinct : (entries.map Prod.fst).Nodup) (free : ∀ entry ∈ entries, entry.1 ∉ reservedNames) :
    command.scan tokens =
      .ok (⟨entries⟩, CommandLine.strays command.schema.table none tokens) := by
  have unstored : ∀ entry ∈ entries, Slots.empty.contains entry.1 = false :=
    fun entry member => (Slots.contains_empty _).mpr (free entry member)
  rw [scan, performSegments_of_serves served distinct unstored, CommandLine.strays_eq]
  rfl

end Command

end Argline
