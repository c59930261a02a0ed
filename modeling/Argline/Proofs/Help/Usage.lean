/-
**The line of usage, filled in.**

Behind the name of the program the line of usage is read as a template too. It stands for itself there
exactly if no flag has a percent sign, as those of renamed built-in options may have.

* `Ty.all_form`: the characters of what follows a flag;
* `Schema.usageText`: the line of usage, as it is to show;
* `Schema.usageTail`: what stands behind the program, in the template as well as in the line;
* `Schema.fill_usage_iff`: whether the line shows the program and all options;
* `Schema.percent_notMem_usageTail`: percent signs behind the program come from flags;
* `Schema.usage_survives`: which schemas have a line that shows all options.
-/

import Argline.Help.Cell
import Argline.Proofs.CommandLine.Flags
import Argline.Proofs.Joined
import Argline.Proofs.Text.Percents

namespace Argline

/-! ### What follows a flag -/

namespace Ty

/-- A letter, or one of the signs around the names of types. -/
def isFormChar (c : Char) : Bool := c.isAlpha || " .<>[]|".toList.contains c

theorem all_label (type : Ty) : type.label.toList.all isFormChar = true := by
  induction type with
  | scalar kind => cases kind <;> decide
  | array element ih =>
    rw [label, String.toList_append, List.all_append, ih]
    decide

theorem all_itemForm (type : Ty) : type.itemForm.toList.all isFormChar = true := by
  unfold itemForm
  split
  · decide
  · rw [String.toList_append, String.toList_append, List.all_append, List.all_append, all_label]
    decide

/-- What follows the flag of an option consists of letters and of signs around the names of types. -/
theorem all_form (type : Ty) : type.form.toList.all isFormChar = true := by
  unfold form
  split
  · decide
  · rw [String.toList_append, List.all_append, all_itemForm]
    decide
  · exact all_itemForm _

theorem notMem_form {c : Char} (foreign : isFormChar c = false) (type : Ty) :
    c ∉ type.form.toList := by
  intro inside
  rw [List.all_eq_true.mp type.all_form c inside] at foreign
  cases foreign

end Ty

/-! ### What is to show -/

/-- An option in the line of usage, as it shows: its shortest flag and what follows it. -/
def ParameterOption.usageText (option : ParameterOption) : String :=
  let flag := match option.names.short with
    | some name => shortFlag name
    | none => longFlag option.names.long
  flag ++ " " ++ option.parameter.type.form

/-- The line of usage of a program, as it shows. -/
def Schema.usageText (schema : Schema) (program : String) : String :=
  " ".intercalate (program :: schema.parameters.map ParameterOption.usageText
    ++ schema.builtins.filterMap BuiltinOption.usage)

/-- A built-in option in the line of usage, as it is to show: its first flag and what follows it in
brackets. One that is not offered does not show. -/
def BuiltinOption.usageText (option : BuiltinOption) : Option String :=
  option.flags.head?.map fun flag =>
    "[" ++ flag ++ (if option.builtin.takesValue then " " ++ nameForm else "") ++ "]"

/-- The texts behind the program in the line of usage. -/
def Schema.usageTexts (schema : Schema) : List String :=
  schema.parameters.map ParameterOption.usageText ++ schema.builtins.filterMap BuiltinOption.usageText

/-- The template of a built-in option is what is to show. -/
theorem BuiltinOption.usage_eq_usageText (option : BuiltinOption) :
    option.usage = option.usageText := by
  unfold usage usageText flags
  cases option.names <;> rfl

/-- The template of a parameter's option is what is to show, as no type has a percent sign. -/
theorem ParameterOption.usage_eq_usageText (option : ParameterOption) :
    option.usage = option.usageText := by
  have same : Text.asTemplate option.parameter.type.form = option.parameter.type.form :=
    Text.asTemplate_of_notMem (option.parameter.type.notMem_form (by decide))
  unfold usage usageText
  cases option.names.short with
  | none => exact congrArg (longFlag option.names.long ++ " " ++ ·) same
  | some name => exact congrArg (shortFlag name ++ " " ++ ·) same

namespace Schema

/-- The line of usage behind a first text, which is the name of a program or stands for it. -/
def usageBehind (schema : Schema) (first : String) : String :=
  " ".intercalate (first :: schema.usageTexts)

/-- What stands behind the first text in the line of usage. -/
def usageTail (schema : Schema) : List Char :=
  (schema.usageTexts.map String.toList).flatMap (" ".toList ++ ·)

theorem usage_eq_usageBehind (schema : Schema) :
    schema.usage = schema.usageBehind ("%(" ++ programKey ++ ")s") := by
  have parameters : ParameterOption.usage = ParameterOption.usageText :=
    funext ParameterOption.usage_eq_usageText
  have builtins : BuiltinOption.usage = BuiltinOption.usageText :=
    funext BuiltinOption.usage_eq_usageText
  rw [usage, parameters, builtins, usageBehind, usageTexts, List.cons_append]

theorem usageText_eq_usageBehind (schema : Schema) (program : String) :
    schema.usageText program = schema.usageBehind program := by
  have builtins : BuiltinOption.usage = BuiltinOption.usageText :=
    funext BuiltinOption.usage_eq_usageText
  rw [usageText, builtins, usageBehind, usageTexts, List.cons_append]

theorem toList_usageBehind (schema : Schema) (first : String) :
    (schema.usageBehind first).toList = first.toList ++ schema.usageTail := by
  rw [usageBehind, String.toList_intercalate, List.map_cons, intercalate_cons_eq, usageTail]

/-! ### Filling in -/

/-- The line shows the program and all options exactly if what stands behind the program is read as
itself. -/
theorem fill_usage_eq_ok_iff (schema : Schema) (program : String) :
    Text.fill [(programKey, program)] schema.usage = .ok (schema.usageBehind program) ↔
      Text.fillFrom [(programKey, program)] ("%(" ++ programKey ++ ")s").toList.length .plain
        schema.usageTail = .ok schema.usageTail := by
  have named : Text.Fills [(programKey, program)] ("%(" ++ programKey ++ ")s").toList
      program.toList :=
    Text.fills_directive List.lookup_cons_self (by simp [programKey])
  rw [Text.fill, usage_eq_usageBehind, toList_usageBehind, named, map_eq_ok_iff, Nat.zero_add]
  simp only [map_eq_ok_iff]
  constructor
  · rintro ⟨_, ⟨content, filled, rfl⟩, shown⟩
    rw [← String.toList_inj, toList_usageBehind, String.toList_ofList] at shown
    rw [filled, List.append_cancel_left shown]
  · intro filled
    refine ⟨_, ⟨_, filled, rfl⟩, ?_⟩
    rw [← toList_usageBehind, String.ofList_toList]

/-- **The line shows the program and all options if no percent sign stands behind the program**, and
for a program without a percent sign only then. -/
theorem fill_usage_iff (schema : Schema) (program : String) :
    ('%' ∉ schema.usageTail →
      Text.fill [(programKey, program)] schema.usage = .ok (schema.usageBehind program)) ∧
    ('%' ∉ program.toList →
      Text.fill [(programKey, program)] schema.usage = .ok (schema.usageBehind program) →
      '%' ∉ schema.usageTail) := by
  rw [fill_usage_eq_ok_iff]
  refine ⟨Text.fillFrom_eq_self, fun plain => (Text.fillFrom_eq_self_iff ?_ _ _).mp⟩
  intro entry member
  rwa [List.mem_singleton.mp member]

end Schema

/-! ### Where percent signs come from -/

/-- A parameter's option shows without a percent sign if its flags have none. -/
theorem ParameterOption.percent_notMem_usageText {option : ParameterOption}
    (plain : ∀ flag ∈ option.flags, '%' ∉ flag.toList) : '%' ∉ option.usageText.toList := by
  have form : '%' ∉ option.parameter.type.form.toList :=
    option.parameter.type.notMem_form (by decide)
  unfold usageText
  cases short : option.names.short with
  | none =>
    have flag : '%' ∉ (longFlag option.names.long).toList := plain _ List.mem_cons_self
    simp [flag, form]
  | some name =>
    have flag : '%' ∉ (shortFlag name).toList := plain _ (by simp [flags, Names.flags, short])
    simp [flag, form]

theorem BuiltinOption.percent_notMem_usageText {option : BuiltinOption}
    (plain : ∀ flag ∈ option.flags, '%' ∉ flag.toList) {text : String}
    (shown : option.usageText = some text) : '%' ∉ text.toList := by
  obtain ⟨flag, first, rfl⟩ := Option.map_eq_some_iff.mp shown
  have inFlag := plain flag (List.mem_of_head? first)
  cases takes : option.builtin.takesValue <;> simp [nameForm, inFlag]

namespace Schema

variable {schema : Schema} {parameters : List Parameter} {beginning : String}

theorem percent_mem_usageTail_iff :
    '%' ∈ schema.usageTail ↔ ∃ text ∈ schema.usageTexts, '%' ∈ text.toList := by
  simp [usageTail]

/-- **Percent signs behind the program come from flags.** -/
theorem percent_notMem_usageTail
    (plain : ∀ target ∈ schema.targets, ∀ flag ∈ target.flags, '%' ∉ flag.toList) :
    '%' ∉ schema.usageTail := by
  rw [percent_mem_usageTail_iff]
  rintro ⟨text, shown, inside⟩
  rcases List.mem_append.mp shown with parameter | builtin
  · obtain ⟨option, member, rfl⟩ := List.mem_map.mp parameter
    have flags := plain (.parameter option) ((parameter_mem_targets_iff option).mpr member)
    exact ParameterOption.percent_notMem_usageText flags inside
  · obtain ⟨option, member, offered⟩ := List.mem_filterMap.mp builtin
    have flags := plain (.builtin option) ((builtin_mem_targets_iff option).mpr member)
    exact BuiltinOption.percent_notMem_usageText flags offered inside

/-- A built-in option that is renamed with a percent sign shows with it. -/
theorem IsBuilt.percent_mem_usageTail (built : schema.IsBuilt parameters Builtin.standard beginning)
    {option : BuiltinOption} (member : option ∈ schema.builtins) (renamed : option.renamed = true)
    (percent : '%' ∈ beginning.toList) : '%' ∈ schema.usageTail := by
  rw [percent_mem_usageTail_iff]
  cases offered : option.names with
  | none =>
    rw [BuiltinOption.renamed, offered] at renamed
    cases renamed
  | some names =>
    rw [BuiltinOption.renamed, offered, bne_iff_ne] at renamed
    have long := (((built.builtin option member).2 names offered).1).resolve_left renamed
    have shown : option.usageText = some ("[" ++ longFlag names.long ++
        (if option.builtin.takesValue then " " ++ nameForm else "") ++ "]") := by
      rw [BuiltinOption.usageText, BuiltinOption.flags, offered]
      rfl
    refine ⟨_, List.mem_append_right _ (List.mem_filterMap.mpr ⟨option, member, shown⟩), ?_⟩
    simp [longFlag, long, percent]

/-- **There is no percent sign behind the program exactly if no built-in option is renamed with one.** -/
theorem IsBuilt.percent_notMem_usageTail_iff
    (built : schema.IsBuilt parameters Builtin.standard beginning) :
    '%' ∉ schema.usageTail ↔
      ('%' ∈ beginning.toList → ∀ option ∈ schema.builtins, option.renamed = false) := by
  constructor
  · intro absent percent option member
    by_contra renamed
    exact absent (built.percent_mem_usageTail member (Bool.of_not_eq_false renamed) percent)
  · intro unrenamed
    refine percent_notMem_usageTail fun target inTargets flag flags => ?_
    cases target with
    | parameter option =>
      have member := (parameter_mem_targets_iff option).mp inTargets
      exact built.notMem_flags_of_parameter Text.isSign_percent member flags
    | builtin option =>
      have member := (builtin_mem_targets_iff option).mp inTargets
      refine built.notMem_flags_of_builtin Text.isSign_percent member ?_ flags
      intro renamed percent
      rw [unrenamed percent option member] at renamed
      cases renamed

/-- **The line of usage survives being filled in.** It shows the program, the options of the parameters
and the built-in options that are offered, unless a built-in option is renamed with a percent sign; and
then it does not, whatever the program is, as long as it has no percent sign itself. -/
theorem usage_survives {policy : ShadowPolicy}
    (built : ofParameters parameters Builtin.standard policy beginning = .ok schema)
    (program : String) :
    let line := " ".intercalate (program :: schema.parameters.map ParameterOption.usageText ++
      schema.builtins.filterMap BuiltinOption.usageText)
    let plain := '%' ∈ beginning.toList → ∀ option ∈ schema.builtins, option.renamed = false
    (plain → Text.fill [(programKey, program)] schema.usage = .ok line) ∧
      ('%' ∉ program.toList →
        Text.fill [(programKey, program)] schema.usage = .ok line → plain) := by
  intro line plain
  have isBuilt := isBuilt_of_ofParameters built
  have tail : '%' ∉ schema.usageTail ↔ plain := isBuilt.percent_notMem_usageTail_iff
  rw [← tail]
  exact fill_usage_iff schema program

/-- A schema whose first parameter takes the names of the option for help. -/
def overlaid : Schema where
  parameters := [
    ⟨{ name := "help", type := .array (.scalar .range) }, ⟨"help", some "h"⟩⟩,
    ⟨{ name := "on", type := .scalar .bool }, ⟨"on", some "o"⟩⟩]
  builtins := [
    ⟨.help, some ⟨"driver-help", none⟩⟩,
    ⟨.version, some ⟨"version", none⟩⟩,
    ⟨.simulator, some ⟨"simulator", some "s"⟩⟩]

theorem usage_survives_overlaid :
    ofParameters (overlaid.parameters.map ParameterOption.parameter) = .ok overlaid ∧
      Text.fill [(programKey, "100%")] overlaid.usage = .ok
        ("100% -h <start>..[<step>..]<end> ... -o [true|false] "
          ++ "[--driver-help] [--version] [--simulator <name>]") := by
  have built : ofParameters (overlaid.parameters.map ParameterOption.parameter) = .ok overlaid := rfl
  exact ⟨built, (usage_survives built "100%").1 (by decide)⟩

/-- **Renamed options that the line of usage garbles.** Behind one percent sign the flag is read as a
directive without a value, and two percent signs show as one. -/
theorem usage_garbled :
    (∃ schema, ofParameters [{ name := "help", type := .scalar .int }] Builtin.standard .rename "%" =
        .ok schema ∧
      Text.fill [(programKey, "Sample")] schema.usage = .error .noValue) ∧
    ∃ schema, ofParameters [{ name := "help", type := .scalar .int }] Builtin.standard .rename "%%" =
        .ok schema ∧
      (∃ option ∈ schema.builtins, option.flags = ["--%%help"]) ∧
      Text.fill [(programKey, "Sample")] schema.usage =
        .ok "Sample -h <Int> [--%help] [--version] [--simulator <name>]" := by
  refine ⟨⟨_, rfl, ?_⟩, ⟨_, rfl, ?_, ?_⟩⟩
  -- The schema is still to be evaluated, with the case folding that compares its names.
  · decide +kernel
  · decide +kernel
  · decide +kernel

end Schema

end Argline
