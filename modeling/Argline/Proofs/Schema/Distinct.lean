/-
**Every name in a schema is unique.**

* `Target.conflict?`: the first flag that an option shares with an earlier one, where options are
  offered one after another;
* `Schema.names_distinct`: under any built-in options no long name is granted twice, whatever its
  case, and no short one; under the standard ones no flag is, so each stands for one option.
-/

import Argline.Proofs.CommandLine.Flags

namespace Argline

namespace Target

/-- The first flag of the options that one of the options before has too, or that is taken already.
Options cannot be offered side by side if there is one. -/
def conflict? (taken : List String) : List Target → Option String
  | [] => none
  | target :: rest => (target.flags.find? taken.contains).or (conflict? (taken ++ target.flags) rest)

/-- Options without a flag in common are offered without a conflict. -/
theorem conflict?_eq_none {taken : List String} {targets : List Target}
    (distinct : (taken ++ targets.flatMap flags).Nodup) : conflict? taken targets = none := by
  induction targets generalizing taken with
  | nil => rfl
  | cons target rest ih =>
    rw [List.flatMap_cons, ← List.append_assoc] at distinct
    have first : target.flags.find? taken.contains = none := by
      rw [List.find?_eq_none]
      intro flag member shared
      have apart := (List.nodup_append.mp (List.nodup_append.mp distinct).1).2.2
      exact apart flag (List.contains_iff_mem.mp shared) flag member rfl
    rw [conflict?, first, Option.none_or]
    exact ih distinct

end Target

namespace Schema

/-- The long names of a schema differ by more than their case. -/
theorem IsBuilt.nodup_longs {schema : Schema} {parameters : List Parameter}
    {builtins : List Builtin} {beginning : String}
    (built : schema.IsBuilt parameters builtins beginning) :
    (schema.names.map fun names => Text.foldText names.long).Nodup :=
  List.pairwise_map.mpr (built.apart.imp Names.Apart.long)

/-- The short names of a schema differ. -/
theorem IsBuilt.nodup_shorts {schema : Schema} {parameters : List Parameter}
    {builtins : List Builtin} {beginning : String}
    (built : schema.IsBuilt parameters builtins beginning) :
    (schema.names.filterMap Names.short).Nodup := by
  refine List.pairwise_filterMap.mpr (built.apart.imp fun apart name held other held' => ?_)
  rintro rfl
  exact apart.short name held held'

theorem map_fst_table_eq_flags (schema : Schema) :
    schema.table.map Prod.fst = schema.targets.flatMap Target.flags := by
  simp [table, List.map_flatMap, Function.comp_def]

/-- **Every name in a schema is unique.** The long names of all options that are offered differ even
when case is folded, and so do the short names. Of the standard built-in options this holds flag by
flag: no flag is granted twice, each one stands for one option, and the options can be offered one
after another without a conflict. -/
theorem names_distinct {parameters : List Parameter} {builtins : List Builtin}
    {policy : ShadowPolicy} {beginning : String} {schema : Schema}
    (built : ofParameters parameters builtins policy beginning = .ok schema) :
    (schema.names.map fun names => Text.foldText names.long).Nodup ∧
      (schema.names.filterMap Names.short).Nodup ∧
      (builtins = Builtin.standard →
        (schema.targets.flatMap Target.flags).Nodup ∧
          (∀ flag ∈ schema.targets.flatMap Target.flags,
            ∃! target, target ∈ schema.targets ∧ flag ∈ target.flags) ∧
          Target.conflict? [] schema.targets = none) := by
  have isBuilt := isBuilt_of_ofParameters built
  refine ⟨isBuilt.nodup_longs, isBuilt.nodup_shorts, ?_⟩
  rintro rfl
  have distinct := isBuilt.nodup_flags
  rw [map_fst_table_eq_flags] at distinct
  refine ⟨distinct, fun flag member => ?_, Target.conflict?_eq_none (by simpa using distinct)⟩
  obtain ⟨target, inTargets, flags⟩ := List.mem_flatMap.mp member
  refine ⟨target, ⟨inTargets, flags⟩, fun other shares => ?_⟩
  have found := (isBuilt.lookup_eq_some_iff flag target).mpr ⟨inTargets, flags⟩
  rw [(isBuilt.lookup_eq_some_iff flag other).mpr shares] at found
  exact Option.some.inj found

/-- A schema whose parameters take the names of two built-in options and the short name of a third. -/
def shadowing : Schema where
  parameters := [
    ⟨{ name := "simulator", type := .scalar .text }, ⟨"simulator", some "s"⟩⟩,
    ⟨{ name := "Version", type := .scalar .int }, ⟨"version", some "v"⟩⟩,
    ⟨{ name := "h", type := .scalar .bool }, ⟨"h", some "h"⟩⟩]
  builtins := [⟨.help, some ⟨"help", none⟩⟩, ⟨.version, some ⟨"driver-version", none⟩⟩,
    ⟨.simulator, some ⟨"driver-simulator", none⟩⟩]

theorem names_distinct_shadowing :
    ofParameters (shadowing.parameters.map ParameterOption.parameter) = .ok shadowing ∧
      (["simulator", "version", "h", "help", "driver-version", "driver-simulator"].map
        Text.foldText).Nodup ∧
      ["s", "v", "h"].Nodup ∧
      ["--simulator", "-s", "--version", "-v", "--h", "-h", "--help", "--driver-version",
        "--driver-simulator"].Nodup ∧
      (∃! target, target ∈ shadowing.targets ∧ "-h" ∈ target.flags) ∧
      Target.conflict? [] shadowing.targets = none := by
  have built : ofParameters (shadowing.parameters.map ParameterOption.parameter) = .ok shadowing := by
    rfl
  obtain ⟨longs, shorts, standard⟩ := names_distinct built
  obtain ⟨flags, denotes, offered⟩ := standard rfl
  exact ⟨built, longs, shorts, flags, denotes "-h" (by decide), offered⟩

end Schema

end Argline
