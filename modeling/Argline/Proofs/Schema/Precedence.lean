/-
**Parameters are named first.**

The names of a parameter's option depend on its own identifier and on the parameters declared before
it, and on nothing else.

* `Parameter.AsksFor`: the short name that a parameter would like to have;
* `ParameterOption.IsNamedBehind`: an option that bears the names of its parameter, but for a short one
  that an earlier parameter asks for;
* `ParameterOption.AreNamedInTurn`: options each of which is named behind those in front of it. The
  short names that such options bear are those that their parameters ask for, which carries the naming
  of one option after another;
* `Schema.parameters_first`: no built-in option and no later parameter has a say in these names.
-/

import Argline.Proofs.Schema.Names

namespace Argline

/-- A parameter whose identifier begins with a letter asks for that letter in lower case. -/
def Parameter.AsksFor (parameter : Parameter) (short : String) : Prop :=
  ∃ letter rest, parameter.name.toList = letter :: rest ∧ Text.isLetter letter = true ∧
    short = String.ofList (Text.lower letter)

theorem Parameter.initial?_eq_some_iff (parameter : Parameter) (short : String) :
    initial? parameter.name = some short ↔ parameter.AsksFor short := by
  unfold initial? AsksFor
  cases parameter.name.toList with
  | nil => simp
  | cons letter rest => simp [and_assoc, eq_comm (a := short)]

namespace ParameterOption

/-- An option behind earlier ones bears the long name of its parameter, and the short name that the
parameter asks for unless one of the earlier parameters asks for it too. -/
structure IsNamedBehind (earlier : List ParameterOption) (option : ParameterOption) : Prop where
  long : option.names.long = hyphenated option.parameter.name
  short : ∀ name, option.names.short = some name ↔
    option.parameter.AsksFor name ∧ ∀ other ∈ earlier, ¬ other.parameter.AsksFor name

/-- Each option is named behind those in front of it. -/
def AreNamedInTurn (options : List ParameterOption) : Prop :=
  ∀ front option back, options = front ++ option :: back → option.IsNamedBehind front

theorem areNamedInTurn_append_iff (options : List ParameterOption) (last : ParameterOption) :
    AreNamedInTurn (options ++ [last]) ↔ AreNamedInTurn options ∧ last.IsNamedBehind options := by
  constructor
  · intro inTurn
    refine ⟨fun front option back cut => ?_, inTurn options last [] rfl⟩
    exact inTurn front option (back ++ [last]) (by rw [cut]; simp)
  · rintro ⟨inTurn, behind⟩ front option back cut
    rcases List.eq_nil_or_concat back with rfl | ⟨back, final, rfl⟩
    · obtain ⟨rfl, same⟩ := List.append_inj' cut rfl
      cases same
      exact behind
    · rw [List.concat_eq_append, ← List.cons_append, ← List.append_assoc] at cut
      exact inTurn front option back (List.append_inj' cut rfl).1

/-- **The short names that are borne are those that are asked for.** Who asks for a name first bears
it, so no name is free that has been asked for, although only names that are borne count as taken. -/
theorem AreNamedInTurn.exists_short_iff {options : List ParameterOption}
    (inTurn : AreNamedInTurn options) (name : String) :
    (∃ option ∈ options, option.names.short = some name) ↔
      ∃ option ∈ options, option.parameter.AsksFor name := by
  induction options using List.reverseRecOn with
  | nil => simp
  | append_singleton options last ih =>
    obtain ⟨earlier, behind⟩ := (areNamedInTurn_append_iff options last).mp inTurn
    simp only [List.mem_append, List.mem_singleton, or_and_right, exists_or, exists_eq_left,
      ih earlier, behind.short]
    constructor
    · exact Or.imp_right And.left
    · rintro (asked | asks)
      · exact .inl asked
      · by_cases asked : ∃ option ∈ options, option.parameter.AsksFor name
        · exact .inl asked
        · exact .inr ⟨asks, fun other member asks' => asked ⟨other, member, asks'⟩⟩

/-- The option of a parameter, and the names among which its short one has to be free. -/
theorem eq_of_ofParameter {earlier : List ParameterOption} {parameter : Parameter}
    {option : ParameterOption} (named : ofParameter earlier parameter = .ok option) :
    option = ⟨parameter, hyphenated parameter.name, (initial? parameter.name).filter fun name =>
      !(earlier.filterMap fun other => other.names.short).contains name⟩ := by
  unfold ofParameter at named
  split at named
  · cases named
  split at named
  · cases named
  dsimp only at named
  split at named
  · cases named
  · exact (Except.ok.inj named).symm

/-- The option of a parameter is named behind the earlier ones. -/
theorem isNamedBehind_of_ofParameter {earlier : List ParameterOption} {parameter : Parameter}
    {option : ParameterOption} (inTurn : AreNamedInTurn earlier)
    (named : ofParameter earlier parameter = .ok option) : option.IsNamedBehind earlier := by
  obtain rfl := eq_of_ofParameter named
  refine ⟨rfl, fun name => ?_⟩
  dsimp only
  rw [Option.filter_eq_some_iff, Parameter.initial?_eq_some_iff]
  simp only [Bool.not_eq_true', List.contains_eq_mem, decide_eq_false_iff_not, List.mem_filterMap,
    inTurn.exists_short_iff, not_exists, not_and]

/-- **Options are named in turn**, behind earlier ones that are. -/
theorem areNamedInTurn_of_ofParameters {earlier options : List ParameterOption}
    {parameters : List Parameter} (inTurn : AreNamedInTurn earlier)
    (named : ofParameters earlier parameters = .ok options) :
    AreNamedInTurn options ∧ earlier <+: options := by
  induction parameters generalizing earlier with
  | nil =>
    cases named
    exact ⟨inTurn, List.prefix_rfl⟩
  | cons parameter rest ih =>
    obtain ⟨option, first, others⟩ := bind_eq_ok_iff.mp named
    have longer := (areNamedInTurn_append_iff earlier option).mpr
      ⟨inTurn, isNamedBehind_of_ofParameter inTurn first⟩
    obtain ⟨inTurn', before⟩ := ih longer others
    exact ⟨inTurn', (List.prefix_append _ _).trans before⟩

/-- Parameters are named behind those that are declared before them. -/
theorem ofParameters_append (earlier : List ParameterOption) (front back : List Parameter) :
    ofParameters earlier (front ++ back) =
      ofParameters earlier front >>= fun options => ofParameters options back := by
  induction front generalizing earlier with
  | nil => rfl
  | cons parameter rest ih =>
    rw [List.cons_append, ofParameters, ofParameters, bind_assoc]
    exact bind_congr fun option => ih _

end ParameterOption

namespace Schema

/-- A schema comes to the options of its parameters, or to the fault of one of them. -/
theorem map_parameters_ofParameters (parameters : List Parameter) (builtins : List Builtin)
    (policy : ShadowPolicy) (beginning : String) :
    (ofParameters parameters builtins policy beginning).map Schema.parameters =
      ParameterOption.ofParameters [] parameters := by
  unfold ofParameters
  cases ParameterOption.ofParameters [] parameters <;> rfl

/-- **Parameters are named first.** Their options, or the fault of the first one that has none, do not
depend on the built-in options and on what happens to these. They are a beginning of the options that
there are with further parameters. Each bears the long name of its own identifier; and it bears a short
name, the first letter of the identifier, exactly if no parameter in front of it asks for the same. -/
theorem parameters_first (parameters : List Parameter) (builtins : List Builtin)
    (policy : ShadowPolicy) (beginning : String) :
    (∀ builtins' policy' beginning',
      (ofParameters parameters builtins' policy' beginning').map Schema.parameters =
        (ofParameters parameters builtins policy beginning).map Schema.parameters) ∧
    (∀ later schema, ofParameters (parameters ++ later) builtins policy beginning = .ok schema →
      ∃ shorter, ofParameters parameters builtins policy beginning = .ok shorter ∧
        shorter.parameters <+: schema.parameters) ∧
    ∀ schema, ofParameters parameters builtins policy beginning = .ok schema →
      schema.parameters.map ParameterOption.parameter = parameters ∧
        ParameterOption.AreNamedInTurn schema.parameters := by
  have nothing : ParameterOption.AreNamedInTurn [] := by
    intro front option back cut
    cases front <;> cases cut
  refine ⟨fun builtins' policy' beginning' => ?_, fun later schema built => ?_, fun schema built => ?_⟩
  · rw [map_parameters_ofParameters, map_parameters_ofParameters]
  · obtain ⟨all, named, made⟩ := bind_eq_ok_iff.mp built
    cases made
    rw [ParameterOption.ofParameters_append] at named
    obtain ⟨options, first, others⟩ := bind_eq_ok_iff.mp named
    obtain ⟨inTurn, _⟩ := ParameterOption.areNamedInTurn_of_ofParameters nothing first
    obtain ⟨_, before⟩ := ParameterOption.areNamedInTurn_of_ofParameters inTurn others
    exact ⟨_, bind_eq_ok_iff.mpr ⟨options, first, rfl⟩, before⟩
  · obtain ⟨options, named, made⟩ := bind_eq_ok_iff.mp built
    cases made
    exact ⟨(isBuilt_of_ofParameters built).parameters,
      (ParameterOption.areNamedInTurn_of_ofParameters nothing named).1⟩

/-- Two parameters that ask for the same short name. -/
def crowded : List Parameter :=
  [{ name := "numQubits", type := .scalar .int }, { name := "noise", type := .scalar .double }]

/-- With a parameter behind them that takes the name of a built-in option, or with no built-in option
at all, their options are the same. -/
theorem parameters_first_crowded :
    ∃ schema shorter,
      ofParameters (crowded ++ [{ name := "help", type := .scalar .text }]) = .ok schema ∧
        ofParameters crowded = .ok shorter ∧ shorter.parameters <+: schema.parameters ∧
        (ofParameters crowded [] .omit "").map Schema.parameters = .ok shorter.parameters ∧
        schema.parameters.map ParameterOption.names =
          [⟨"num-qubits", some "n"⟩, ⟨"noise", none⟩, ⟨"help", some "h"⟩] ∧
        ParameterOption.AreNamedInTurn schema.parameters := by
  have built : ofParameters (crowded ++ [{ name := "help", type := .scalar .text }]) = .ok _ := rfl
  obtain ⟨alone, shortens, _⟩ := parameters_first crowded Builtin.standard .rename standardBeginning
  obtain ⟨shorter, built', before⟩ := shortens _ _ built
  have inTurn := ((parameters_first _ _ _ _).2.2 _ built).2
  refine ⟨_, shorter, built, built', before, ?_, rfl, inTurn⟩
  rw [alone, built']
  rfl

end Schema

end Argline
