/-
**Built-in options lose a name only to another option.**

Built-in options are named one after another, each among the names that the options in front of it
have. No name is set aside that no option has in the end.

* `Names.LongHeld`, `Names.ShortHeld`: one of some options has a name;
* `BuiltinOption.IsNamedAmong`: a built-in option has all the names that it may have among some options;
* `BuiltinOption.isNamedAmong_ofBuiltin`, `BuiltinOption.ofBuiltins_cut`: one built-in option, and every
  one in its turn;
* `Schema.lost_names_held`: a name that a built-in option does not have is the name of another option, and
  a built-in option that is not offered makes no difference to the others.
-/

import Argline.Proofs.Schema.Names

namespace Argline

namespace Names

/-- One of some options has a long name, whatever its case. -/
def LongHeld (others : List Names) (name : String) : Prop :=
  ∃ names ∈ others, Text.foldText names.long = Text.foldText name

/-- One of some options has a short name. -/
def ShortHeld (others : List Names) (name : String) : Prop :=
  ∃ names ∈ others, names.short = some name

end Names

namespace Claims

/-- Take the names of several options too. -/
def insertAll (claims : Claims) (more : List Names) : Claims := more.foldl insert claims

theorem Of.insertAll {claims : Claims} {taken : List Names} (of : claims.Of taken)
    (more : List Names) : (claims.insertAll more).Of (taken ++ more) := by
  induction more generalizing claims taken with
  | nil => simpa [Claims.insertAll] using of
  | cons names rest ih =>
    rw [List.append_cons]
    exact ih (of.insert names)

theorem Of.shortHeld_iff {claims : Claims} {taken : List Names} (of : claims.Of taken)
    (name : String) : claims.shorts.contains name = true ↔ Names.ShortHeld taken name := by
  rw [List.contains_iff_mem, of.shorts, Names.ShortHeld]

end Claims

namespace BuiltinOption

/-- A built-in option has all the names that it may have where other options have theirs. -/
structure IsNamedAmong (policy : ShadowPolicy) (beginning : String) (others : List Names)
    (option : BuiltinOption) : Prop where
  /-- It has its own long name exactly if no other option has it. -/
  own : option.names.map Names.long = some option.builtin.long ↔
    ¬ Names.LongHeld others option.builtin.long
  /-- It has another long name only if names are changed, and that is its own behind the beginning. -/
  renamed : option.renamed = true →
    policy = .rename ∧ option.names.map Names.long = some (beginning ++ option.builtin.long)
  /-- It is not offered exactly if other options have its own long name and, where names are changed,
  the changed one. -/
  omitted : option.omitted = true ↔ Names.LongHeld others option.builtin.long ∧
    (policy = .rename → Names.LongHeld others (beginning ++ option.builtin.long))
  /-- It has the short name that it asks for exactly if no other option has it. -/
  short : ∀ names, option.names = some names → ∀ name,
    names.short = some name ↔ option.builtin.short = some name ∧ ¬ Names.ShortHeld others name

section Naming

variable {claims : Claims} {taken : List Names} (of : claims.Of taken) (policy : ShadowPolicy)
  (beginning : String) (builtin : Builtin)

theorem map_long_ofBuiltin (claims : Claims) :
    (ofBuiltin policy beginning claims builtin).names.map Names.long =
      builtin.longUnder policy beginning claims := by
  unfold ofBuiltin
  cases builtin.longUnder policy beginning claims with
  | none => rfl
  | some long => rfl

include of

/-- The long name of a built-in option: its own, the changed one, or none. -/
theorem longUnder_cases :
    (¬ Names.LongHeld taken builtin.long ∧
      builtin.longUnder policy beginning claims = some builtin.long) ∨
    (Names.LongHeld taken builtin.long ∧ policy = .rename ∧
      ¬ Names.LongHeld taken (beginning ++ builtin.long) ∧
      builtin.longUnder policy beginning claims = some (beginning ++ builtin.long)) ∨
    (Names.LongHeld taken builtin.long ∧
      (policy = .rename → Names.LongHeld taken (beginning ++ builtin.long)) ∧
      builtin.longUnder policy beginning claims = none) := by
  have held (name : String) : claims.hasLong name = true ↔ Names.LongHeld taken name :=
    of.hasLong_iff name
  unfold Builtin.longUnder
  by_cases own : Names.LongHeld taken builtin.long
  · rw [(held _).mpr own]
    cases policy
    · by_cases changed : Names.LongHeld taken (beginning ++ builtin.long)
      · exact .inr (.inr ⟨own, fun _ => changed, if_pos ((held _).mpr changed)⟩)
      · exact .inr (.inl ⟨own, rfl, changed, if_neg fun taken => changed ((held _).mp taken)⟩)
    · exact .inr (.inr ⟨own, nofun, rfl⟩)
  · have free : claims.hasLong builtin.long = false := by
      rw [← Bool.not_eq_true, held]
      exact own
    rw [free]
    exact .inl ⟨own, rfl⟩

/-- **A built-in option has all the names that are left for it.** -/
theorem isNamedAmong_ofBuiltin :
    (ofBuiltin policy beginning claims builtin).IsNamedAmong policy beginning taken := by
  have long := map_long_ofBuiltin policy beginning builtin claims
  have omitted : (ofBuiltin policy beginning claims builtin).omitted = true ↔
      builtin.longUnder policy beginning claims = none := by
    rw [BuiltinOption.omitted, Option.isNone_iff_eq_none, ← long, Option.map_eq_none_iff]
  have renamed (changed : (ofBuiltin policy beginning claims builtin).renamed = true) :
      ∃ name, builtin.longUnder policy beginning claims = some name ∧ name ≠ builtin.long := by
    unfold BuiltinOption.renamed at changed
    split at changed
    · next names offered =>
      rw [offered] at long
      exact ⟨names.long, long.symm, bne_iff_ne.mp changed⟩
    · cases changed
  have short (names : Names) (offered : (ofBuiltin policy beginning claims builtin).names = some names)
      (name : String) : names.short = some name ↔
        builtin.short = some name ∧ ¬ Names.ShortHeld taken name := by
    obtain ⟨long, _, rfl⟩ := Option.map_eq_some_iff.mp offered
    rw [Option.filter_eq_some_iff, Bool.not_eq_true', ← Bool.not_eq_true, of.shortHeld_iff]
  rcases longUnder_cases of policy beginning builtin with
    ⟨free, found⟩ | ⟨own, names, free, found⟩ | ⟨own, changed, found⟩
  · refine ⟨iff_of_true (long.trans found) free, fun changed => ?_,
      iff_of_false (fun none => ?_) fun both => free both.1, short⟩
    · obtain ⟨name, other, apart⟩ := renamed changed
      rw [found] at other
      exact absurd (Option.some.inj other).symm apart
    · rw [omitted, found] at none
      cases none
  · refine ⟨iff_of_false (fun kept => ?_) (not_not_intro own), fun _ => ⟨names, long.trans found⟩,
      iff_of_false (fun none => ?_) fun both => free (both.2 names), short⟩
    · rw [long, found, Option.some.injEq] at kept
      rw [kept] at free
      exact free own
    · rw [omitted, found] at none
      cases none
  · refine ⟨iff_of_false (fun kept => ?_) (not_not_intro own), fun changed => ?_,
      iff_of_true (omitted.mpr found) ⟨own, changed⟩, short⟩
    · rw [long, found] at kept
      cases kept
    · obtain ⟨name, other, _⟩ := renamed changed
      rw [found] at other
      cases other

end Naming

/-! ### One after another -/

variable (policy : ShadowPolicy) (beginning : String)

/-- Built-in options are named among the names that those in front of them take. -/
theorem ofBuiltins_append (claims : Claims) (front back : List Builtin) :
    ofBuiltins policy beginning claims (front ++ back) =
      ofBuiltins policy beginning claims front ++
        ofBuiltins policy beginning
          (claims.insertAll ((ofBuiltins policy beginning claims front).filterMap names)) back := by
  induction front generalizing claims with
  | nil => rfl
  | cons builtin rest ih =>
    rw [List.cons_append, ofBuiltins, ofBuiltins, ih, List.cons_append]
    cases offered : (ofBuiltin policy beginning claims builtin).names with
    | none => rw [List.filterMap_cons_none offered]
    | some names =>
      rw [List.filterMap_cons_some offered]
      rfl

variable {policy beginning}

/-- Of built-in options that are named one after another, each is named among the names of those in
front of it. -/
theorem ofBuiltins_cut {claims : Claims} {builtins : List Builtin} {front back : List BuiltinOption}
    {option : BuiltinOption}
    (cut : ofBuiltins policy beginning claims builtins = front ++ option :: back) :
    ofBuiltins policy beginning claims (front.map builtin) = front ∧
      ofBuiltins policy beginning (claims.insertAll (front.filterMap names))
        (option.builtin :: back.map builtin) = option :: back := by
  have all := map_builtin_ofBuiltins policy beginning claims builtins
  rw [cut, List.map_append, List.map_cons] at all
  rw [← all, ofBuiltins_append] at cut
  have length : (ofBuiltins policy beginning claims (front.map builtin)).length = front.length := by
    have same := congrArg List.length (map_builtin_ofBuiltins policy beginning claims
      (front.map builtin))
    simpa using same
  obtain ⟨before, behind⟩ := List.append_inj cut length
  rw [before] at behind
  exact ⟨before, behind⟩

end BuiltinOption

namespace Schema

/-- **Built-in options lose a name only to another option.** A built-in option has all the names that
it may have among the options in front of it: those of the parameters and the built-in options before
it. One that is not offered makes no difference: without it the schema has the same other options. -/
theorem lost_names_held {parameters : List Parameter} {builtins : List Builtin}
    {policy : ShadowPolicy} {beginning : String} {schema : Schema}
    (built : ofParameters parameters builtins policy beginning = .ok schema) :
    schema.builtins.map BuiltinOption.builtin = builtins ∧
    ∀ front option back, schema.builtins = front ++ option :: back →
      option.IsNamedAmong policy beginning
        (schema.parameters.map ParameterOption.names ++ front.filterMap BuiltinOption.names) ∧
      (option.omitted = true →
        ofParameters parameters (front.map BuiltinOption.builtin ++ back.map BuiltinOption.builtin)
          policy beginning = .ok ⟨schema.parameters, front ++ back⟩) := by
  refine ⟨map_builtin_of_ofParameters built, fun front option back cut => ?_⟩
  obtain ⟨options, named, made⟩ := bind_eq_ok_iff.mp built
  cases made
  obtain ⟨before, behind⟩ := BuiltinOption.ofBuiltins_cut cut
  obtain ⟨first, others⟩ := List.cons.inj behind
  rw [first] at others
  refine ⟨?_, fun omitted => bind_eq_ok_iff.mpr ⟨options, named, ?_⟩⟩
  · rw [← first]
    exact BuiltinOption.isNamedAmong_ofBuiltin ((Claims.of_ofOptions options).insertAll _) _ _ _
  · rw [Option.isNone_iff_eq_none.mp omitted] at others
    rw [BuiltinOption.ofBuiltins_append, before, others]
    rfl

/-- A schema whose parameters take both names that the option for the simulator may have, and the short
name of the option for help. -/
def displacing : Schema where
  parameters := [
    ⟨{ name := "simulator", type := .scalar .text }, ⟨"simulator", some "s"⟩⟩,
    ⟨{ name := "driverSimulator", type := .scalar .int }, ⟨"driver-simulator", some "d"⟩⟩,
    ⟨{ name := "h", type := .scalar .bool }, ⟨"h", some "h"⟩⟩]
  builtins := [⟨.help, some ⟨"help", none⟩⟩, ⟨.version, some ⟨"version", none⟩⟩, ⟨.simulator, none⟩]

theorem lost_names_held_displacing :
    ofParameters (displacing.parameters.map ParameterOption.parameter) = .ok displacing ∧
      Names.ShortHeld (displacing.parameters.map ParameterOption.names) "h" ∧
      Names.LongHeld displacing.names "simulator" ∧
      Names.LongHeld displacing.names "driver-simulator" ∧
      ofParameters (displacing.parameters.map ParameterOption.parameter) [.help, .version] =
        .ok ⟨displacing.parameters, displacing.builtins.take 2⟩ := by
  have built :
      ofParameters (displacing.parameters.map ParameterOption.parameter) = .ok displacing := rfl
  obtain ⟨_, named⟩ := lost_names_held built
  obtain ⟨help, _⟩ := named [] _ _ rfl
  obtain ⟨simulator, without⟩ := named [_, _] _ [] rfl
  obtain ⟨own, changed⟩ := simulator.omitted.mp rfl
  refine ⟨built, ?_, own, changed rfl, without rfl⟩
  by_contra free
  cases (help.short _ rfl "h").mpr ⟨rfl, free⟩

end Schema

end Argline
