/-
**The flags of a schema.**

* `IsOptionLike`, `Names.IsFlag`: what flags have in common, by which values can be told from them;
* `Schema.IsBuilt.nodup_flags`: no flag stands for two options;
* `Schema.IsBuilt.lookup_eq_some_iff`: every flag of an option is found to stand for it;
* `Schema.IsBuilt.notMem_flags`: no flag has a sign in it that stands in no name.
-/

import Argline.CommandLine.Segment
import Argline.Proofs.Bindings
import Argline.Proofs.Schema.Names

namespace Argline

/-! ### Tokens that begin like a flag -/

/-- A token that begins like a flag: with two hyphens, or with one and a character that no number
begins with. -/
def IsOptionLike (token : String) : Prop :=
  ∃ c rest, token.toList = '-' :: c :: rest ∧ (c = '-' ∨ 0x61 ≤ c.toNat)

theorem isOptionLike_terminator : IsOptionLike CommandLine.terminator :=
  ⟨'-', [], rfl, .inl rfl⟩

theorem not_isOptionLike_of_head {token : String} {c : Char} {rest : List Char}
    (text : token.toList = c :: rest) (apart : c ≠ '-') : ¬ IsOptionLike token := by
  rintro ⟨d, others, shape, _⟩
  exact apart (List.cons.inj (text.symm.trans shape)).1

/-- No digit stands behind the first hyphen of a flag. -/
theorem isDigit_eq_false {c : Char} (code : c = '-' ∨ 0x61 ≤ c.toNat) : c.isDigit = false := by
  rcases code with rfl | code
  · rfl
  · rw [Char.isDigit, Bool.and_eq_false_iff, decide_eq_false_iff_not, decide_eq_false_iff_not]
    refine .inr fun below => ?_
    have last : c.toNat ≤ 57 := below
    omega

/-! ### Flags of names -/

namespace Names

theorem mem_flags_iff (names : Names) (flag : String) :
    flag ∈ names.flags ↔ flag = longFlag names.long ∨
      ∃ name, names.short = some name ∧ flag = shortFlag name := by
  rw [flags, List.mem_cons]
  cases names.short with
  | none => simp
  | some name => simp

/-- What all flags have in common. -/
structure IsFlag (flag : String) : Prop where
  shape : IsOptionLike flag
  ne_terminator : flag ≠ CommandLine.terminator

theorem IsProper.isFlag {names : Names} (proper : names.IsProper) {flag : String}
    (member : flag ∈ names.flags) : IsFlag flag := by
  rcases (mem_flags_iff names flag).mp member with rfl | ⟨name, short, rfl⟩
  · refine ⟨⟨'-', names.long.toList, by simp [longFlag], .inl rfl⟩, fun equal => proper.long ?_⟩
    simpa [longFlag, CommandLine.terminator] using congrArg String.toList equal
  · obtain ⟨nonempty, behind⟩ := proper.short name short
    obtain ⟨c, rest, text⟩ := List.exists_cons_of_ne_nil
      (fun empty => nonempty (String.toList_eq_nil_iff.mp empty))
    have code := behind c (text ▸ List.mem_cons_self)
    refine ⟨⟨c, rest, by simp [shortFlag, text], .inr code⟩, fun equal => ?_⟩
    have same := congrArg String.toList equal
    simp [shortFlag, CommandLine.terminator, text] at same
    obtain ⟨rfl, _⟩ := same
    exact absurd code (by decide)

/-- The long flag of an option is not its short one. -/
theorem longFlag_ne_shortFlag {first second : Names} (proper : second.IsProper) {name : String}
    (short : second.short = some name) : longFlag first.long ≠ shortFlag name := by
  intro equal
  have same : '-' :: first.long.toList = name.toList := by
    simpa [longFlag, shortFlag] using congrArg String.toList equal
  exact absurd ((proper.short name short).2 '-' (same ▸ List.mem_cons_self)) (by decide)

@[simp]
theorem longFlag_inj {first second : String} : longFlag first = longFlag second ↔ first = second := by
  simp [longFlag, ← String.toList_inj]

@[simp]
theorem shortFlag_inj {first second : String} :
    shortFlag first = shortFlag second ↔ first = second := by
  simp [shortFlag, ← String.toList_inj]

theorem IsProper.nodup_flags {names : Names} (proper : names.IsProper) : names.flags.Nodup := by
  unfold flags
  cases short : names.short with
  | none => simp
  | some name => simpa using longFlag_ne_shortFlag proper short

/-- Options without a name in common have no flag in common. -/
theorem Apart.disjoint {first second : Names} (apart : first.Apart second)
    (one : first.IsProper) (other : second.IsProper) : first.flags.Disjoint second.flags := by
  intro flag member shared
  rcases (mem_flags_iff first flag).mp member with rfl | ⟨name, short, rfl⟩
  · rcases (mem_flags_iff second _).mp shared with equal | ⟨name, short, equal⟩
    · exact apart.long (congrArg Text.foldText (longFlag_inj.mp equal))
    · exact longFlag_ne_shortFlag other short equal
  · rcases (mem_flags_iff second _).mp shared with equal | ⟨name', short', equal⟩
    · exact longFlag_ne_shortFlag one short equal.symm
    · exact apart.short name short (shortFlag_inj.mp equal ▸ short')

end Names

/-! ### The table of flags -/

namespace Target

/-- The names of an option, if it is offered. -/
def names : Target → Option Names
  | .parameter option => some option.names
  | .builtin option => option.names

theorem mem_flags_iff (target : Target) (flag : String) :
    flag ∈ target.flags ↔ ∃ names, target.names = some names ∧ flag ∈ names.flags := by
  cases target with
  | parameter option => simp [flags, names, ParameterOption.flags]
  | builtin option =>
    cases offered : option.names with
    | none => simp [flags, BuiltinOption.flags, names, offered]
    | some granted => simp [flags, BuiltinOption.flags, names, offered]

end Target

namespace Schema

variable {schema : Schema}

@[simp]
theorem parameter_mem_targets_iff (option : ParameterOption) :
    .parameter option ∈ schema.targets ↔ option ∈ schema.parameters := by
  simp [targets]

@[simp]
theorem builtin_mem_targets_iff (option : BuiltinOption) :
    .builtin option ∈ schema.targets ↔ option ∈ schema.builtins := by
  simp [targets]

theorem mem_table_iff (flag : String) (target : Target) :
    (flag, target) ∈ schema.table ↔ target ∈ schema.targets ∧ flag ∈ target.flags := by
  simp [table]

theorem map_fst_table : schema.table.map Prod.fst = schema.names.flatMap Names.flags := by
  have parameters : schema.parameters.flatMap (fun option => Target.flags (.parameter option)) =
      (schema.parameters.map ParameterOption.names).flatMap Names.flags := by
    rw [List.flatMap_map]
    rfl
  have builtins : schema.builtins.flatMap (fun option => Target.flags (.builtin option)) =
      (schema.builtins.filterMap BuiltinOption.names).flatMap Names.flags := by
    induction schema.builtins with
    | nil => rfl
    | cons option rest ih =>
      cases offered : option.names with
      | none =>
        rw [List.filterMap_cons_none offered, ← ih, List.flatMap_cons]
        simp [Target.flags, BuiltinOption.flags, offered]
      | some names =>
        rw [List.filterMap_cons_some offered, List.flatMap_cons, List.flatMap_cons, ih]
        simp [Target.flags, BuiltinOption.flags, offered]
  rw [table, targets, List.map_flatMap, names, List.flatMap_append, List.flatMap_append,
    ← parameters, ← builtins, List.flatMap_map, List.flatMap_map]
  simp [Function.comp_def]

variable {parameters : List Parameter} {beginning : String}

/-- **No flag stands for two options.** -/
theorem IsBuilt.nodup_flags (built : schema.IsBuilt parameters Builtin.standard beginning) :
    (schema.table.map Prod.fst).Nodup := by
  rw [map_fst_table, List.nodup_flatMap]
  refine ⟨fun names member => (built.isProper names member).nodup_flags, ?_⟩
  exact built.apart.imp_of_mem fun one other apart =>
    apart.disjoint (built.isProper _ one) (built.isProper _ other)

/-- **The flags of an option stand for it.** -/
theorem IsBuilt.lookup_eq_some_iff (built : schema.IsBuilt parameters Builtin.standard beginning)
    (flag : String) (target : Target) :
    schema.table.lookup flag = some target ↔ target ∈ schema.targets ∧ flag ∈ target.flags := by
  rw [lookup_eq_some_iff_mem built.nodup_flags, mem_table_iff]

theorem IsBuilt.lookup_of_parameter (built : schema.IsBuilt parameters Builtin.standard beginning)
    {option : ParameterOption} (declared : option ∈ schema.parameters) {flag : String}
    (member : flag ∈ option.flags) : schema.table.lookup flag = some (.parameter option) :=
  (built.lookup_eq_some_iff _ _).mpr ⟨(parameter_mem_targets_iff _).mpr declared, member⟩

theorem mem_names_of_mem_targets {target : Target} (inTargets : target ∈ schema.targets)
    {names : Names} (offered : target.names = some names) : names ∈ schema.names := by
  rcases List.mem_append.mp inTargets with parameter | builtin
  · obtain ⟨option, member, rfl⟩ := List.mem_map.mp parameter
    cases offered
    exact List.mem_append_left _ (List.mem_map_of_mem member)
  · obtain ⟨option, member, rfl⟩ := List.mem_map.mp builtin
    exact List.mem_append_right _ (List.mem_filterMap.mpr ⟨option, member, offered⟩)

theorem IsBuilt.isFlag (built : schema.IsBuilt parameters Builtin.standard beginning)
    {flag : String} {target : Target} (found : schema.table.lookup flag = some target) :
    Names.IsFlag flag := by
  obtain ⟨member, flags⟩ := (mem_table_iff _ _).mp (mem_of_lookup_eq_some found)
  obtain ⟨names, offered, flags⟩ := (target.mem_flags_iff flag).mp flags
  exact (built.isProper names (mem_names_of_mem_targets member offered)).isFlag flags

/-! ### Signs -/

/-- No flag of a parameter has a sign in it. -/
theorem IsBuilt.notMem_flags_of_parameter
    (built : schema.IsBuilt parameters Builtin.standard beginning) {sign : Char}
    (isSign : Text.IsSign sign) {option : ParameterOption} (member : option ∈ schema.parameters)
    {flag : String} (flags : flag ∈ option.flags) : sign ∉ flag.toList := by
  have named := built.isNamed option member
  rcases (Names.mem_flags_iff _ _).mp flags with rfl | ⟨name, short, rfl⟩
  · simpa [longFlag, isSign.ne_hyphen] using named.notMem_long isSign
  · intro inside
    have behind := (named.isProper.short name short).2 sign
      (by simpa [shortFlag, isSign.ne_hyphen] using inside)
    exact absurd isSign.ascii (Nat.not_lt.mpr behind)

/-- The names of the standard built-in options consist of small letters. -/
theorem small_of_standard {builtin : Builtin} (standard : builtin ∈ Builtin.standard) :
    (∀ c ∈ builtin.long.toList, 0x61 ≤ c.toNat) ∧
      ∀ name, builtin.short = some name → ∀ c ∈ name.toList, 0x61 ≤ c.toNat := by
  refine ⟨?_, fun name held => ((isProper_of_standard standard).2 name held).2⟩
  simp only [Builtin.standard, List.mem_cons, List.not_mem_nil, or_false] at standard
  rcases standard with rfl | rfl | rfl <;>
    simp [Builtin.help, Builtin.version, Builtin.simulator]

/-- A flag of a built-in option has a sign in it only if the option is renamed, and renamed options
begin with one. -/
theorem IsBuilt.notMem_flags_of_builtin
    (built : schema.IsBuilt parameters Builtin.standard beginning) {sign : Char}
    (isSign : Text.IsSign sign) {option : BuiltinOption} (member : option ∈ schema.builtins)
    (plain : option.renamed = true → sign ∉ beginning.toList) {flag : String}
    (flags : flag ∈ option.flags) : sign ∉ flag.toList := by
  obtain ⟨standard, granted⟩ := built.builtin option member
  obtain ⟨names, offered, flags⟩ := ((Target.builtin option).mem_flags_iff flag).mp flags
  have offered' : option.names = some names := offered
  obtain ⟨long, short⟩ := granted names offered'
  obtain ⟨ownLong, ownShort⟩ := small_of_standard standard
  have absent {name : String} (small : ∀ c ∈ name.toList, 0x61 ≤ c.toNat) : sign ∉ name.toList :=
    fun inside => absurd isSign.ascii (Nat.not_lt.mpr (small sign inside))
  rcases (Names.mem_flags_iff names flag).mp flags with rfl | ⟨name, held, rfl⟩
  · by_cases own : names.long = option.builtin.long
    · simpa [longFlag, own, isSign.ne_hyphen] using absent ownLong
    · have renamed : option.renamed = true := by
        rw [BuiltinOption.renamed, offered', bne_iff_ne]
        exact own
      have behind := long.resolve_left own
      simpa [longFlag, behind, isSign.ne_hyphen, not_or] using ⟨plain renamed, absent ownLong⟩
  · simpa [shortFlag, isSign.ne_hyphen] using absent (ownShort name (short name held))

/-- **No flag has a sign in it, if renamed options do not begin with one.** -/
theorem IsBuilt.notMem_flags (built : schema.IsBuilt parameters Builtin.standard beginning)
    {sign : Char} (isSign : Text.IsSign sign) (plain : sign ∉ beginning.toList) {target : Target}
    (inTargets : target ∈ schema.targets) {flag : String} (flags : flag ∈ target.flags) :
    sign ∉ flag.toList := by
  cases target with
  | parameter option =>
    have member := (parameter_mem_targets_iff option).mp inTargets
    exact built.notMem_flags_of_parameter isSign member flags
  | builtin option =>
    have member := (builtin_mem_targets_iff option).mp inTargets
    exact built.notMem_flags_of_builtin isSign member (fun _ => plain) flags

end Schema

end Argline
