/-
**The names of a schema.**

* `ParameterOption.IsNamed`: the option of a parameter bears the names that its identifier asks for;
* `Names.Apart`, `Schema.pairwise_apart`: no two options of a schema have a name in common;
* `Claims.Of`: the names that are taken, as the invariant of naming one option after another;
* `Names.IsProper`: what makes the flags of an option recognisable, and
  `Schema.isProper_of_ofParameters`.
-/

import Argline.Proofs.Outcome
import Argline.Proofs.Text.Names
import Argline.Schema.Build
import Mathlib.Data.List.Induction

namespace Argline

/-- Two options have no name in common. -/
structure Names.Apart (first second : Names) : Prop where
  long : Text.foldText first.long ≠ Text.foldText second.long
  short : ∀ name, first.short = some name → second.short ≠ some name

/-! ### Parameters -/

namespace ParameterOption

/-- The option of a parameter bears the names that the parameter's identifier asks for. -/
structure IsNamed (option : ParameterOption) : Prop where
  identifier : Text.isIdentifier option.parameter.name = true
  flat : option.parameter.type.isNested = false
  long : option.names.long = hyphenated option.parameter.name
  short : ∀ name, option.names.short = some name → initial? option.parameter.name = some name

/-- The option of a parameter behind the earlier ones. -/
theorem isNamed_of_ofParameter {earlier : List ParameterOption} {parameter : Parameter}
    {option : ParameterOption} (named : ofParameter earlier parameter = .ok option) :
    option.parameter = parameter ∧ option.IsNamed ∧
      ∀ other ∈ earlier, other.names.Apart option.names := by
  unfold ofParameter at named
  split at named
  · cases named
  next identifier =>
  split at named
  · cases named
  next flat =>
  dsimp only at named
  split at named
  · cases named
  next free =>
  cases named
  refine ⟨rfl, ⟨by simpa using identifier, by simpa using flat, rfl, ?_⟩, ?_⟩
  · intro name short
    exact (Option.filter_eq_some_iff.mp short).1
  · intro other member
    refine ⟨?_, fun name taken short => ?_⟩
    · simpa using List.find?_eq_none.mp free other member
    · have unclaimed := (Option.filter_eq_some_iff.mp short).2
      simp only [Bool.not_eq_true', List.contains_eq_mem, decide_eq_false_iff_not,
        List.mem_filterMap, not_exists, not_and] at unclaimed
      exact unclaimed other member taken

/-- **The options of parameters are named one by one.** -/
theorem isNamed_of_ofParameters {earlier options : List ParameterOption}
    {parameters : List Parameter} (named : ofParameters earlier parameters = .ok options)
    (apart : earlier.Pairwise fun first second => first.names.Apart second.names) :
    (options.Pairwise fun first second => first.names.Apart second.names) ∧
      ∃ added, options = earlier ++ added ∧ added.map ParameterOption.parameter = parameters ∧
        ∀ option ∈ added, option.IsNamed := by
  induction parameters generalizing earlier with
  | nil =>
    cases named
    exact ⟨apart, [], by simp, rfl, by simp⟩
  | cons parameter rest ih =>
    obtain ⟨option, first, others⟩ := bind_eq_ok_iff.mp named
    obtain ⟨rfl, isNamed, free⟩ := isNamed_of_ofParameter first
    have longer : (earlier ++ [option]).Pairwise
        fun first second => first.names.Apart second.names := by
      rw [List.pairwise_append]
      refine ⟨apart, List.pairwise_singleton _ _, fun other member last only => ?_⟩
      obtain rfl := List.mem_singleton.mp only
      exact free other member
    obtain ⟨allApart, added, rfl, rfl, allNamed⟩ := ih others longer
    refine ⟨allApart, option :: added, by simp, rfl, ?_⟩
    rintro other (_ | ⟨_, member⟩)
    · exact isNamed
    · exact allNamed other member

end ParameterOption

/-! ### Built-in options -/

/-- The names that are taken are those of a list of options. -/
structure Claims.Of (claims : Claims) (taken : List Names) : Prop where
  longs : ∀ name, name ∈ claims.longs ↔ ∃ names ∈ taken, Text.foldText names.long = name
  shorts : ∀ name, name ∈ claims.shorts ↔ ∃ names ∈ taken, names.short = some name

namespace Claims

theorem Of.insert {claims : Claims} {taken : List Names} (of : claims.Of taken) (names : Names) :
    (claims.insert names).Of (taken ++ [names]) where
  longs name := by
    rw [Claims.insert, List.mem_cons, of.longs]
    simp only [List.mem_append, List.mem_singleton, or_and_right, exists_or, exists_eq_left]
    rw [or_comm, eq_comm (a := name)]
  shorts name := by
    rw [Claims.insert, List.mem_append, of.shorts, Option.mem_toList]
    simp only [List.mem_append, List.mem_singleton, or_and_right, exists_or, exists_eq_left]
    exact or_comm

/-- The names of the options of parameters are taken. -/
theorem of_ofOptions (options : List ParameterOption) :
    (ofOptions options).Of (options.map ParameterOption.names) := by
  unfold ofOptions
  induction options using List.reverseRecOn with
  | nil => exact ⟨by simp, by simp⟩
  | append_singleton options option ih =>
    rw [List.foldl_append, List.map_append]
    exact ih.insert option.names

theorem Of.hasLong_iff {claims : Claims} {taken : List Names} (of : claims.Of taken)
    (name : String) :
    claims.hasLong name = true ↔ ∃ names ∈ taken, Text.foldText names.long = Text.foldText name := by
  rw [hasLong, List.contains_iff_mem, of.longs]

end Claims

namespace BuiltinOption

/-- A built-in option that is offered has its own long name, or that behind the common beginning. -/
theorem long_of_longUnder {builtin : Builtin} {policy : ShadowPolicy} {beginning long : String}
    {claims : Claims} (found : builtin.longUnder policy beginning claims = some long) :
    claims.hasLong long = false ∧ (long = builtin.long ∨ long = beginning ++ builtin.long) := by
  unfold Builtin.longUnder at found
  split at found
  · next free =>
    cases found
    exact ⟨by simpa using free, .inl rfl⟩
  · split at found
    · cases found
    · dsimp only at found
      split at found
      · cases found
      · next free =>
        cases found
        exact ⟨by simpa using free, .inr rfl⟩

/-- The names of a built-in option are none of those that are taken. -/
theorem apart_of_ofBuiltin {policy : ShadowPolicy} {beginning : String} {claims : Claims}
    {taken : List Names} (of : claims.Of taken) {builtin : Builtin} {names : Names}
    (offered : (ofBuiltin policy beginning claims builtin).names = some names) :
    (∀ other ∈ taken, other.Apart names) ∧
      (names.long = builtin.long ∨ names.long = beginning ++ builtin.long) ∧
      ∀ name, names.short = some name → builtin.short = some name := by
  obtain ⟨long, found, rfl⟩ := Option.map_eq_some_iff.mp offered
  obtain ⟨free, origin⟩ := long_of_longUnder found
  refine ⟨fun other member => ⟨fun same => ?_, fun name held short => ?_⟩, origin,
    fun name short => (Option.filter_eq_some_iff.mp short).1⟩
  · rw [(of.hasLong_iff _).mpr ⟨other, member, same⟩] at free
    cases free
  · have unclaimed := (Option.filter_eq_some_iff.mp short).2
    rw [Bool.not_eq_true', List.contains_eq_mem, decide_eq_false_iff_not, of.shorts] at unclaimed
    exact unclaimed ⟨other, member, held⟩

/-- **The built-in options take their names from those that are left.** -/
theorem pairwise_apart_ofBuiltins (policy : ShadowPolicy) (beginning : String)
    (builtins : List Builtin) {claims : Claims} {taken : List Names} (of : claims.Of taken)
    (apart : taken.Pairwise Names.Apart) :
    (taken ++ (ofBuiltins policy beginning claims builtins).filterMap names).Pairwise
      Names.Apart := by
  induction builtins generalizing claims taken with
  | nil => simpa [ofBuiltins] using apart
  | cons builtin rest ih =>
    rw [ofBuiltins]
    cases offered : (ofBuiltin policy beginning claims builtin).names with
    | none =>
      rw [List.filterMap_cons_none offered]
      exact ih of apart
    | some names =>
      rw [List.filterMap_cons_some offered, List.append_cons]
      refine ih (of.insert names) ?_
      rw [List.pairwise_append]
      refine ⟨apart, List.pairwise_singleton _ _, fun other member last only => ?_⟩
      obtain rfl := List.mem_singleton.mp only
      exact (apart_of_ofBuiltin of offered).1 other member

/-- Each built-in option stands for one of the built-ins, under names that this one may have. -/
theorem mem_ofBuiltins {policy : ShadowPolicy} {beginning : String} {builtins : List Builtin}
    {claims : Claims} {taken : List Names} (of : claims.Of taken) {option : BuiltinOption}
    (member : option ∈ ofBuiltins policy beginning claims builtins) :
    option.builtin ∈ builtins ∧ ∀ names, option.names = some names →
      (names.long = option.builtin.long ∨ names.long = beginning ++ option.builtin.long) ∧
        ∀ name, names.short = some name → option.builtin.short = some name := by
  induction builtins generalizing claims taken with
  | nil => cases member
  | cons builtin rest ih =>
    rw [ofBuiltins] at member
    rcases List.mem_cons.mp member with rfl | later
    · exact ⟨List.mem_cons_self, fun names offered => (apart_of_ofBuiltin of offered).2⟩
    · revert later
      cases (ofBuiltin policy beginning claims builtin).names with
      | none => exact fun later => (ih of later).imp_left (List.mem_cons_of_mem _)
      | some names =>
        exact fun later => (ih (of.insert names) later).imp_left (List.mem_cons_of_mem _)

/-- There is one option for each built-in, in their order. -/
theorem map_builtin_ofBuiltins (policy : ShadowPolicy) (beginning : String) (claims : Claims)
    (builtins : List Builtin) :
    (ofBuiltins policy beginning claims builtins).map builtin = builtins := by
  induction builtins generalizing claims with
  | nil => rfl
  | cons builtin rest ih =>
    rw [ofBuiltins, List.map_cons, ih]
    rfl

end BuiltinOption

/-! ### Schemas -/

namespace Schema

/-- The names that a schema grants, those of the parameters first. -/
def names (schema : Schema) : List Names :=
  schema.parameters.map ParameterOption.names ++ schema.builtins.filterMap BuiltinOption.names

/-- A schema made for parameters and built-in options. -/
structure IsBuilt (schema : Schema) (parameters : List Parameter) (builtins : List Builtin)
    (beginning : String) : Prop where
  parameters : schema.parameters.map ParameterOption.parameter = parameters
  isNamed : ∀ option ∈ schema.parameters, option.IsNamed
  apart : schema.names.Pairwise Names.Apart
  builtin : ∀ option ∈ schema.builtins, option.builtin ∈ builtins ∧
    ∀ names, option.names = some names →
      (names.long = option.builtin.long ∨ names.long = beginning ++ option.builtin.long) ∧
        ∀ name, names.short = some name → option.builtin.short = some name

/-- **Every schema names its parameters by their identifiers, and no name twice.** -/
theorem isBuilt_of_ofParameters {parameters : List Parameter} {builtins : List Builtin}
    {policy : ShadowPolicy} {beginning : String} {schema : Schema}
    (built : ofParameters parameters builtins policy beginning = .ok schema) :
    schema.IsBuilt parameters builtins beginning := by
  obtain ⟨options, named, built⟩ := bind_eq_ok_iff.mp built
  cases built
  obtain ⟨apart, added, rfl, rfl, isNamed⟩ :=
    ParameterOption.isNamed_of_ofParameters named List.Pairwise.nil
  have taken := Claims.of_ofOptions options
  refine ⟨rfl, isNamed, ?_, fun option member => BuiltinOption.mem_ofBuiltins taken member⟩
  exact BuiltinOption.pairwise_apart_ofBuiltins policy beginning builtins taken
    (List.pairwise_map.mpr apart)

/-- A schema has one option for each built-in, in their order. -/
theorem map_builtin_of_ofParameters {parameters : List Parameter} {builtins : List Builtin}
    {policy : ShadowPolicy} {beginning : String} {schema : Schema}
    (built : ofParameters parameters builtins policy beginning = .ok schema) :
    schema.builtins.map BuiltinOption.builtin = builtins := by
  obtain ⟨options, _, built⟩ := bind_eq_ok_iff.mp built
  cases built
  exact BuiltinOption.map_builtin_ofBuiltins _ _ _ _

/-- A schema is not empty: without parameters, the standard built-in options keep their names. -/
theorem offers_of_ofParameters {parameters : List Parameter} {policy : ShadowPolicy}
    {beginning : String} {schema : Schema}
    (built : ofParameters parameters Builtin.standard policy beginning = .ok schema) :
    schema.parameters ≠ [] ∨ schema.builtins.filter (fun option => !option.omitted) ≠ [] := by
  cases parameters with
  | nil =>
    cases built
    exact .inr (List.ne_nil_of_mem (List.mem_filter.mpr ⟨List.mem_cons_self, rfl⟩))
  | cons parameter rest =>
    refine .inl fun none => ?_
    have declared := (isBuilt_of_ofParameters built).parameters
    rw [none] at declared
    cases declared

/-- The parameters of a schema have different names. -/
theorem IsBuilt.nodup_names {schema : Schema} {parameters : List Parameter}
    {builtins : List Builtin} {beginning : String}
    (built : schema.IsBuilt parameters builtins beginning) :
    (parameters.map Parameter.name).Nodup := by
  rw [← built.parameters, List.map_map]
  have apart := List.pairwise_map.mp (List.pairwise_append.mp built.apart).1
  refine List.pairwise_map.mpr (apart.imp_of_mem fun {first second} one other => ?_)
  intro distinct same
  refine distinct.long ?_
  rw [(built.isNamed first one).long, (built.isNamed second other).long]
  exact congrArg (fun name => Text.foldText (hyphenated name)) same

end Schema

/-! ### Flags -/

/-- Names whose flags can be told from values: the long one is not empty, and the short one lies
behind the ASCII capitals, digits and signs. -/
structure Names.IsProper (names : Names) : Prop where
  long : names.long ≠ ""
  short : ∀ name, names.short = some name → name ≠ "" ∧ ∀ c ∈ name.toList, 0x61 ≤ c.toNat

theorem isProper_of_initial? {identifier name : String} (initial : initial? identifier = some name) :
    name ≠ "" ∧ ∀ c ∈ name.toList, 0x61 ≤ c.toNat := by
  unfold initial? at initial
  split at initial
  · cases initial
  · next first rest _ =>
    split at initial
    · next letter =>
      cases initial
      constructor
      · intro empty
        exact Text.lower_ne_nil first (by simpa using congrArg String.toList empty)
      · intro c member
        exact Text.letter_lower_ge letter (by simpa using member)
    · cases initial

theorem hyphenated_ne_empty {identifier : String} (nonempty : identifier.toList ≠ []) :
    hyphenated identifier ≠ "" := by
  intro empty
  obtain ⟨first, rest, text⟩ := List.exists_cons_of_ne_nil nonempty
  have none := congrArg String.toList empty
  rw [hyphenated, text, String.toList_ofList, hyphenatedFrom] at none
  simp [Text.lower_ne_nil] at none

theorem notMem_hyphenatedFrom {sign : Char} (isSign : Text.IsSign sign) {characters : List Char}
    (absent : sign ∉ characters) (previous : Option Char) :
    sign ∉ hyphenatedFrom previous characters := by
  induction characters generalizing previous with
  | nil => simp [hyphenatedFrom]
  | cons c rest ih =>
    rw [List.mem_cons, not_or] at absent
    rw [hyphenatedFrom]
    simp only [List.mem_append, not_or]
    refine ⟨⟨?_, ?_⟩, ih absent.2 _⟩
    · split
      · exact fun member => isSign.ne_hyphen (List.mem_singleton.mp member)
      · exact List.not_mem_nil
    · exact fun member => Text.ne_of_mem_lower isSign.ascii (Ne.symm absent.1) member rfl

namespace ParameterOption.IsNamed

variable {option : ParameterOption}

theorem isProper (named : option.IsNamed) : option.names.IsProper where
  long := by
    rw [named.long]
    exact hyphenated_ne_empty (Text.toList_ne_nil_of_isIdentifier named.identifier)
  short name short := isProper_of_initial? (named.short name short)

/-- No long name of a parameter has a sign in it. -/
theorem notMem_long (named : option.IsNamed) {sign : Char} (isSign : Text.IsSign sign) :
    sign ∉ option.names.long.toList := by
  rw [named.long, hyphenated, String.toList_ofList]
  exact notMem_hyphenatedFrom isSign (isSign.notMem_of_isIdentifier named.identifier) none

end ParameterOption.IsNamed

namespace Schema

/-- The standard built-in options have proper names. -/
theorem isProper_of_standard {builtin : Builtin} (standard : builtin ∈ Builtin.standard) :
    builtin.long ≠ "" ∧ ∀ name, builtin.short = some name →
      name ≠ "" ∧ ∀ c ∈ name.toList, 0x61 ≤ c.toNat := by
  simp only [Builtin.standard, List.mem_cons, List.not_mem_nil, or_false] at standard
  rcases standard with rfl | rfl | rfl
  · refine ⟨by decide, fun name short => ?_⟩
    cases short
    exact ⟨by decide, by simp⟩
  · exact ⟨by decide, fun name short => by cases short⟩
  · refine ⟨by decide, fun name short => ?_⟩
    cases short
    exact ⟨by decide, by simp⟩

/-- **All names that a schema grants are proper.** -/
theorem IsBuilt.isProper {schema : Schema} {parameters : List Parameter} {beginning : String}
    (built : schema.IsBuilt parameters Builtin.standard beginning) :
    ∀ names ∈ schema.names, names.IsProper := by
  intro names granted
  rcases List.mem_append.mp granted with parameter | builtin
  · obtain ⟨option, member, rfl⟩ := List.mem_map.mp parameter
    exact (built.isNamed option member).isProper
  · obtain ⟨option, member, offered⟩ := List.mem_filterMap.mp builtin
    obtain ⟨standard, origin⟩ := built.builtin option member
    obtain ⟨long, short⟩ := isProper_of_standard standard
    obtain ⟨source, kept⟩ := origin names offered
    refine ⟨?_, fun name held => short name (kept name held)⟩
    rcases source with source | source
    · rwa [source]
    · rw [source]
      exact fun empty => long (String.append_eq_empty_iff.mp empty).2

end Schema

end Argline
