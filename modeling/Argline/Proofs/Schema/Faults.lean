/-
**The first parameter that breaks a rule decides.**

Parameters have options if they keep three rules, two of which concern each by itself, and one all of
them. Where they do not, the first one that breaks a rule behind parameters that keep them all decides the
fault, and what is declared behind it has no say.

* `Parameter.AreNameable`: parameters that keep the rules;
* `Parameter.Breaks`: a parameter that breaks a rule, with the fault for which it is refused;
* `ParameterOption.ofParameter_eq_error_iff`: behind parameters that keep the rules, a parameter is refused
  for the fault with which it breaks them;
* `Schema.refused_at_first`: when there is a schema, and for which fault there is none.
-/

import Argline.Proofs.Schema.Precedence

namespace Argline

namespace Parameter

/-- The long name of a parameter's option, as long names are compared. -/
def comparedName (parameter : Parameter) : String := Text.foldText (hyphenated parameter.name)

/-- Parameters that keep the rules for options. -/
structure AreNameable (parameters : List Parameter) : Prop where
  identifier : ∀ parameter ∈ parameters, Text.isIdentifier parameter.name = true
  flat : ∀ parameter ∈ parameters, parameter.type.isNested = false
  distinct : (parameters.map comparedName).Nodup

/-- A parameter behind others breaks a rule: the first that it breaks counts. Where it has the long name of
a parameter in front of it, this is the only one with that name. -/
inductive Breaks (earlier : List Parameter) (parameter : Parameter) : SchemaFault → Prop
  | notIdentifier (foreign : Text.isIdentifier parameter.name = false) :
    Breaks earlier parameter (.notIdentifier parameter.name)
  | nestedArray (identifier : Text.isIdentifier parameter.name = true)
    (nested : parameter.type.isNested = true) :
    Breaks earlier parameter (.nestedArray parameter.name parameter.type)
  | duplicate (identifier : Text.isIdentifier parameter.name = true)
    (flat : parameter.type.isNested = false) {other : Parameter}
    (only : earlier.filter (fun other => other.comparedName = parameter.comparedName) = [other]) :
    Breaks earlier parameter (.duplicate other.name parameter.name (hyphenated parameter.name))

/-- Of parameters with different long names, the one that is found under a name is the only one. -/
theorem find?_eq_some_iff_filter {parameters : List Parameter}
    (distinct : (parameters.map comparedName).Nodup) (name : String) (parameter : Parameter) :
    parameters.find? (fun other => other.comparedName == name) = some parameter ↔
      parameters.filter (fun other => other.comparedName = name) = [parameter] := by
  rw [← List.head?_filter]
  simp only [beq_eq_decide]
  cases found : parameters.filter fun other => other.comparedName = name with
  | nil => simp
  | cons first rest =>
    have alone : rest = [] := by
      rw [List.eq_nil_iff_forall_not_mem]
      intro second later
      have kept : ((parameters.filter fun other => other.comparedName = name).map
          comparedName).Nodup := (List.filter_sublist.map comparedName).nodup distinct
      rw [found, List.map_cons, List.nodup_cons] at kept
      have named : ∀ other ∈ first :: rest, other.comparedName = name := by
        intro other member
        rw [← found] at member
        exact of_decide_eq_true (List.mem_filter.mp member).2
      refine kept.1 (List.mem_map.mpr ⟨second, later, ?_⟩)
      rw [named second (List.mem_cons_of_mem _ later), named first List.mem_cons_self]
    simp [alone]

/-- Parameters one of which breaks a rule do not keep them all. -/
theorem Breaks.not_areNameable {front back : List Parameter} {parameter : Parameter}
    {fault : SchemaFault} (breaks : parameter.Breaks front fault) :
    ¬ AreNameable (front ++ parameter :: back) := by
  intro nameable
  have member : parameter ∈ front ++ parameter :: back :=
    List.mem_append_right _ List.mem_cons_self
  cases breaks with
  | notIdentifier foreign => exact absurd (nameable.identifier _ member) (by simp [foreign])
  | nestedArray _ nested => exact absurd (nameable.flat _ member) (by simp [nested])
  | @duplicate _ _ other only =>
    have inFront : other ∈ front.filter fun other => other.comparedName = parameter.comparedName :=
      only ▸ List.mem_cons_self
    obtain ⟨declared, same⟩ := List.mem_filter.mp inFront
    have distinct := nameable.distinct
    rw [List.map_append, List.map_cons, List.nodup_append] at distinct
    exact distinct.2.2 _ (List.mem_map_of_mem declared) _ List.mem_cons_self (of_decide_eq_true same)

/-- The rule that is broken decides the kind of the error. -/
theorem Breaks.kind_report {earlier : List Parameter} {parameter : Parameter} {fault : SchemaFault}
    (breaks : parameter.Breaks earlier fault) :
    fault.report.kind =
      if Text.isIdentifier parameter.name = false then .schema
      else if parameter.type.isNested = true then .unsupportedType
      else .duplicateName := by
  cases breaks with
  | notIdentifier foreign => simp [foreign]; rfl
  | nestedArray identifier nested => simp [identifier, nested]; rfl
  | duplicate identifier flat only => simp [identifier, flat]; rfl

end Parameter

namespace ParameterOption

variable {parameters front : List Parameter} {options earlier : List ParameterOption}
  {fault : SchemaFault}

/-- Parameters that have options keep the rules. -/
theorem areNameable_of_ofParameters (named : ofParameters [] parameters = .ok options) :
    Parameter.AreNameable parameters := by
  obtain ⟨apart, added, rfl, rfl, isNamed⟩ := isNamed_of_ofParameters named List.Pairwise.nil
  refine ⟨?_, ?_, ?_⟩
  · exact List.forall_mem_map.mpr fun option member => (isNamed option member).identifier
  · exact List.forall_mem_map.mpr fun option member => (isNamed option member).flat
  · rw [List.map_map]
    refine List.pairwise_map.mpr (apart.imp_of_mem fun {first second} one other apart => ?_)
    rw [Function.comp_apply, Function.comp_apply, Parameter.comparedName, Parameter.comparedName,
      ← (isNamed first one).long, ← (isNamed second other).long]
    exact apart.long

/-- The options of parameters are found by the names of their parameters. -/
theorem find?_of_ofParameters (named : ofParameters [] front = .ok earlier) (name : String) :
    (earlier.find? fun option => Text.foldText option.names.long == name).map
        ParameterOption.parameter =
      front.find? fun other => other.comparedName == name := by
  obtain ⟨_, added, rfl, rfl, isNamed⟩ := isNamed_of_ofParameters named List.Pairwise.nil
  have same : earlier.filter (fun option => Text.foldText option.names.long == name) =
      earlier.filter ((fun other => other.comparedName == name) ∘ ParameterOption.parameter) := by
    refine List.filter_congr fun option member => ?_
    rw [Function.comp_apply, Parameter.comparedName, (isNamed option member).long]
  rw [List.find?_map, ← List.head?_filter, ← List.head?_filter, same]

/-- **Behind parameters that have options, a parameter is refused for the rule that it breaks.** -/
theorem ofParameter_eq_error_iff (named : ofParameters [] front = .ok earlier)
    (parameter : Parameter) :
    ofParameter earlier parameter = .error fault ↔ parameter.Breaks front fault := by
  have found := find?_of_ofParameters named parameter.comparedName
  have only := Parameter.find?_eq_some_iff_filter (areNameable_of_ofParameters named).distinct
    parameter.comparedName
  constructor
  · intro refused
    unfold ofParameter at refused
    split at refused
    · next foreign =>
      cases refused
      exact .notIdentifier (by simpa using foreign)
    next identifier =>
    split at refused
    · next nested =>
      cases refused
      exact .nestedArray (by simpa using identifier) nested
    next flat =>
    dsimp only at refused
    split at refused
    · next option there =>
      cases refused
      refine .duplicate (by simpa using identifier) (by simpa using flat) ((only _).mp ?_)
      rw [← found]
      exact congrArg (Option.map ParameterOption.parameter) there
    · cases refused
  · intro breaks
    cases breaks with
    | notIdentifier foreign => rw [ofParameter, foreign]; rfl
    | nestedArray identifier nested => rw [ofParameter, identifier, nested]; rfl
    | @duplicate identifier flat other same =>
      rw [← only, ← found, Option.map_eq_some_iff] at same
      obtain ⟨option, there, rfl⟩ := same
      rw [ofParameter, identifier, flat]
      simp only [Parameter.comparedName] at there
      simp only [there]
      rfl

/-- Parameters have no options if one of them is refused, behind others that have options. -/
theorem exists_ofParameter_of_error (failed : ofParameters options parameters = .error fault) :
    ∃ front parameter back earlier, parameters = front ++ parameter :: back ∧
      ofParameters options front = .ok earlier ∧ ofParameter earlier parameter = .error fault := by
  induction parameters generalizing options with
  | nil => cases failed
  | cons parameter rest ih =>
    rcases bind_eq_error_iff.mp failed with first | ⟨option, first, others⟩
    · exact ⟨[], parameter, rest, options, rfl, rfl, first⟩
    · obtain ⟨front, other, back, earlier, rfl, before, refused⟩ := ih others
      exact ⟨parameter :: front, other, back, earlier, rfl,
        bind_eq_ok_iff.mpr ⟨option, first, before⟩, refused⟩

/-- **Parameters that keep the rules have options.** -/
theorem exists_ofParameters (nameable : Parameter.AreNameable parameters) :
    ∃ options, ofParameters [] parameters = .ok options := by
  cases outcome : ofParameters [] parameters with
  | ok options => exact ⟨options, rfl⟩
  | error fault =>
    obtain ⟨front, parameter, back, earlier, rfl, before, refused⟩ :=
      exists_ofParameter_of_error outcome
    exact absurd nameable ((ofParameter_eq_error_iff before parameter).mp refused).not_areNameable

end ParameterOption

namespace Schema

/-- **The first parameter that breaks a rule decides.** There is a schema exactly if the parameters keep
the rules for options. If there is none, this is on account of a parameter that breaks a rule behind others
that keep them all, and the fault is the one with which it breaks the rule. Such a parameter is refused so
whatever is declared behind it, and whatever the built-in options are. -/
theorem refused_at_first (parameters : List Parameter) (builtins : List Builtin)
    (policy : ShadowPolicy) (beginning : String) :
    ((∃ schema, ofParameters parameters builtins policy beginning = .ok schema) ↔
      Parameter.AreNameable parameters) ∧
    (∀ fault, ofParameters parameters builtins policy beginning = .error fault →
      ∃ front parameter back, parameters = front ++ parameter :: back ∧
        Parameter.AreNameable front ∧ parameter.Breaks front fault ∧
        fault.report.kind =
          if Text.isIdentifier parameter.name = false then .schema
          else if parameter.type.isNested = true then .unsupportedType
          else .duplicateName) ∧
    ∀ front parameter fault, Parameter.AreNameable front → parameter.Breaks front fault →
      ∀ later, ofParameters (front ++ parameter :: later) builtins policy beginning = .error fault := by
  refine ⟨⟨?_, fun nameable => ?_⟩, fun fault failed => ?_, ?_⟩
  · rintro ⟨schema, built⟩
    obtain ⟨options, named, _⟩ := bind_eq_ok_iff.mp built
    exact ParameterOption.areNameable_of_ofParameters named
  · obtain ⟨options, named⟩ := ParameterOption.exists_ofParameters nameable
    exact ⟨_, bind_eq_ok_iff.mpr ⟨options, named, rfl⟩⟩
  · rcases bind_eq_error_iff.mp failed with refused | ⟨options, _, made⟩
    · obtain ⟨front, parameter, back, earlier, cut, before, refused⟩ :=
        ParameterOption.exists_ofParameter_of_error refused
      have breaks := (ParameterOption.ofParameter_eq_error_iff before parameter).mp refused
      exact ⟨front, parameter, back, cut, ParameterOption.areNameable_of_ofParameters before, breaks,
        breaks.kind_report⟩
    · cases made
  · intro front parameter fault nameable breaks later
    obtain ⟨earlier, before⟩ := ParameterOption.exists_ofParameters nameable
    refine bind_eq_error_iff.mpr (.inl ?_)
    rw [ParameterOption.ofParameters_append, bind_eq_error_iff]
    refine .inr ⟨earlier, before, bind_eq_error_iff.mpr (.inl ?_)⟩
    exact (ParameterOption.ofParameter_eq_error_iff before parameter).mpr breaks

/-- Parameters the second of which has the long name of the first; the third has no identifier. -/
def doubled : List Parameter :=
  [{ name := "numQubits", type := .scalar .int }, { name := "NumQubits", type := .scalar .double },
    { name := "a-b", type := .scalar .text }]

theorem refused_at_first_doubled :
    (¬ ∃ schema, ofParameters doubled = .ok schema) ∧ ¬ Parameter.AreNameable doubled ∧
      ofParameters doubled = .error (.duplicate "numQubits" "NumQubits" "num-qubits") ∧
      ofParameters (doubled.take 2) [] .omit =
        .error (.duplicate "numQubits" "NumQubits" "num-qubits") := by
  have nameable : Parameter.AreNameable (doubled.take 1) :=
    ⟨by decide, by decide, List.pairwise_singleton _ _⟩
  have only : (doubled.take 1).filter (fun other => other.comparedName = doubled[1].comparedName) =
      [doubled[0]] := by
    decide +kernel
  have breaks : Parameter.Breaks (doubled.take 1) doubled[1]
      (.duplicate doubled[0].name doubled[1].name (hyphenated doubled[1].name)) :=
    .duplicate rfl rfl only
  have refused := (refused_at_first doubled Builtin.standard .rename standardBeginning).2.2
    _ _ _ nameable breaks
  have refused' := (refused_at_first doubled [] .omit standardBeginning).2.2 _ _ _ nameable breaks
  have none : ¬ ∃ schema, ofParameters doubled = .ok schema := by
    rintro ⟨schema, built⟩
    cases built.symm.trans (refused (doubled.drop 2))
  refine ⟨none, fun all => none ?_, refused (doubled.drop 2), refused' []⟩
  exact (refused_at_first doubled Builtin.standard .rename standardBeginning).1.mpr all

end Schema

end Argline
