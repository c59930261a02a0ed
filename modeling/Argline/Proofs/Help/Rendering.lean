/-
**Help pages have a text.**

All that a help page shows comes out of templates. Those of descriptions are made for their texts, and
the line of usage is one as long as no flag has a percent sign.

* `Schema.fill_usage`: the line of usage shows all options;
* `ParameterOption.helpText_eq`, `BuiltinOption.helpText_eq`: the help texts of options;
* `HelpPage.exists_render`: a page has a text if its templates have;
* `Command.exists_helpText`, `Command.exists_request`: there is a help page if no flag has a percent
  sign, and then every text that is asked for can be made.
-/

import Argline.CommandLine.Command
import Argline.Proofs.Help.Usage

namespace Argline

/-- **The line of usage shows the program and all options if no flag has a percent sign.** -/
theorem Schema.fill_usage {schema : Schema}
    (plain : ∀ target ∈ schema.targets, ∀ flag ∈ target.flags, '%' ∉ flag.toList)
    (program : String) :
    Text.fill [(programKey, program)] schema.usage = .ok (schema.usageText program) := by
  rw [usageText_eq_usageBehind]
  exact (schema.fill_usage_iff program).1 (percent_notMem_usageTail plain)

/-! ### Help texts -/

/-- The help text of an option is its type in parentheses, and its documentation if there is any. -/
theorem ParameterOption.helpText_eq (option : ParameterOption) :
    option.helpText =
      if option.parameter.doc = "" then "(" ++ option.parameter.type.label ++ ")"
      else "(" ++ option.parameter.type.label ++ ") " ++ option.parameter.doc := by
  unfold helpText
  by_cases undocumented : option.parameter.doc = ""
  · simp [undocumented]
  · have documented : ¬ option.parameter.doc.isEmpty = true := by
      rwa [String.isEmpty_iff]
    rw [if_neg documented, if_neg undocumented]
    simp [String.append_assoc]

/-- The help text of a built-in option is its documentation. The option that selects a simulator also
lists the simulators and names the default one. -/
theorem BuiltinOption.helpText_eq (option : BuiltinOption) (simulators : List String)
    (default : String) :
    option.helpText simulators default =
      if option.builtin.key = Builtin.simulatorKey then
        option.builtin.doc
          ++ (if ", ".intercalate simulators = "" then ""
            else " Available: " ++ ", ".intercalate simulators ++ ".")
          ++ (if default = "" then "" else " Default: " ++ default ++ ".")
      else option.builtin.doc := by
  simp only [helpText, String.isEmpty_iff]

/-! ### Pages -/

/-- A description is made a template exactly if it is read as one. -/
theorem describe_eq_some {summary description : String}
    (described : describe summary = some description) :
    (namesProgram (Text.strip summary) = true ∧
        description = Text.asTemplate (Text.strip summary)) ∨
      (namesProgram (Text.strip summary) = false ∧ description = Text.strip summary) := by
  simp only [describe] at described
  split_ifs at described with empty named
  · exact .inl ⟨named, (Option.some.inj described).symm⟩
  · exact .inr ⟨by simpa using named, (Option.some.inj described).symm⟩

theorem occursIn_iff_infix (pattern characters : List Char) :
    occursIn pattern characters = true ↔ pattern <:+: characters := by
  induction characters with
  | nil => simp [occursIn]
  | cons c rest ih =>
    rw [occursIn, Bool.or_eq_true, ih, List.isPrefixOf_iff_prefix, List.infix_cons_iff]

/-- A text that names the program still does when its percent signs are doubled. -/
theorem namesProgram_asTemplate {text : String} (named : namesProgram text = true) :
    namesProgram (Text.asTemplate text) = true := by
  rw [namesProgram, occursIn_iff_infix] at named ⊢
  obtain ⟨front, back, whole⟩ := named
  have doubled : Text.doublePercents ("%(" ++ programKey ++ ")").toList =
      '%' :: ("%(" ++ programKey ++ ")").toList := by rfl
  refine ⟨Text.doublePercents front ++ ['%'], Text.doublePercents back, ?_⟩
  rw [Text.asTemplate, String.toList_ofList, ← whole, Text.doublePercents_append,
    Text.doublePercents_append, doubled]
  simp

/-- **The description of a summary shows it without the blanks at its ends.** -/
theorem HelpPage.descriptionText_of_describe {summary description : String}
    (described : describe summary = some description) (program : String) :
    descriptionText program description = .ok (Text.strip summary) := by
  rcases describe_eq_some described with ⟨named, rfl⟩ | ⟨unnamed, rfl⟩
  · rw [descriptionText, if_pos (namesProgram_asTemplate named), Text.fill_asTemplate]
  · exact if_neg (by simp [unnamed])

theorem HelpItem.exists_render {item : HelpItem} {text : String}
    (template : item.template = Text.asTemplate text) (program : String) (column : Nat) :
    ∃ shown, item.render program column = .ok shown := by
  unfold render
  rw [template, Text.fill_asTemplate]
  cases lines : Text.linesOf text with
  | nil => exact ⟨_, by simp only [bind, Except.bind, lines]; rfl⟩
  | cons first more => exact ⟨_, by simp only [bind, Except.bind, lines]; rfl⟩

/-- A group has a text if the templates of its items are made for texts. -/
theorem HelpGroup.exists_render {group : HelpGroup}
    (templates : ∀ item ∈ group.items, ∃ text, item.template = Text.asTemplate text)
    (program : String) (column : Nat) : ∃ shown, group.render program column = .ok shown := by
  unfold render
  split
  · exact ⟨_, rfl⟩
  · obtain ⟨items, rendered⟩ : ∃ items, List.Forall₂
        (fun item shown => HelpItem.render program column item = .ok shown) group.items items := by
      refine exists_forall₂ fun item member => ?_
      obtain ⟨text, template⟩ := templates item member
      exact HelpItem.exists_render template program column
    rw [mapM_eq_ok_iff.mpr rendered]
    exact ⟨_, rfl⟩

namespace HelpPage

/-- The description of a page, as it shows between the line of usage and the groups. -/
def shownDescription (page : HelpPage) : Except Text.TemplateFault String :=
  match page.description with
  | some description =>
    (descriptionText page.program description).map fun shown => shown ++ "\n\n"
  | none => .ok ""

/-- What a page is put together from. -/
theorem render_eq_ok {page : HelpPage} {columns : Nat} {usage description : String}
    {groups : List String}
    (used : Text.fill [(programKey, page.program)] page.usage = .ok usage)
    (described : page.shownDescription = .ok description)
    (grouped : page.groups.mapM
      (HelpGroup.render page.program (helpColumn columns page.longest)) = .ok groups) :
    page.render columns = .ok (String.ofList (Text.trimBreaks (Text.squeezeBreaks
      ("usage: " ++ usage ++ "\n\n" ++ description ++ String.join groups).toList)) ++ "\n") := by
  unfold shownDescription at described
  unfold render
  rw [used]
  cases shown : page.description with
  | none =>
    rw [shown] at described
    cases described
    simp only [bind, Except.bind, pure, Except.pure, grouped]
  | some text =>
    rw [shown] at described
    simp only [bind, Except.bind, pure, Except.pure, grouped, described]

/-- **The page of a schema has a text if no flag has a percent sign.** -/
theorem exists_render {schema : Schema}
    (plain : ∀ target ∈ schema.targets, ∀ flag ∈ target.flags, '%' ∉ flag.toList)
    (program summary : String) (simulators : List String) (default : String) (columns : Nat) :
    ∃ content, (ofSchema program summary schema simulators default).render columns =
      .ok content := by
  have described :
      ∃ shown, (ofSchema program summary schema simulators default).shownDescription = .ok shown := by
    simp only [shownDescription, ofSchema]
    split
    · next description found =>
      exact ⟨_, map_eq_ok_iff.mpr ⟨_, descriptionText_of_describe found program, rfl⟩⟩
    · exact ⟨_, rfl⟩
  have grouped (column : Nat) :
      ∃ shown, (ofSchema program summary schema simulators default).groups.mapM
        (HelpGroup.render program column) = .ok shown := by
    simp only [mapM_eq_ok_iff]
    refine exists_forall₂ fun group member => ?_
    refine HelpGroup.exists_render (fun item inItems => ?_) program column
    simp only [ofSchema, List.mem_cons, List.not_mem_nil, or_false] at member
    rcases member with rfl | rfl
    all_goals
      dsimp only at inItems
      obtain ⟨option, _, rfl⟩ := List.mem_map.mp inItems
      exact ⟨_, rfl⟩
  obtain ⟨description, described⟩ := described
  obtain ⟨groups, grouped⟩ := grouped _
  exact ⟨_, render_eq_ok (Schema.fill_usage plain program) described grouped⟩

end HelpPage

theorem Command.helpText_of_render {command : Command} {content : String}
    (rendered : (HelpPage.ofSchema command.program command.summary command.schema command.simulators
      command.defaultSimulator).render command.columns = .ok content) :
    command.helpText = .ok content := by
  simp only [helpText, rendered]

/-- **There is a help page if no flag has a percent sign.** -/
theorem Command.exists_helpText {command : Command}
    (plain : ∀ target ∈ command.schema.targets, ∀ flag ∈ target.flags, '%' ∉ flag.toList) :
    ∃ content, command.helpText = .ok content := by
  obtain ⟨content, rendered⟩ := HelpPage.exists_render plain command.program command.summary
    command.simulators command.defaultSimulator command.columns
  exact ⟨content, helpText_of_render rendered⟩

/-- Then every text that is asked for can be made. -/
theorem Command.exists_request {command : Command}
    (plain : ∀ target ∈ command.schema.targets, ∀ flag ∈ target.flags, '%' ∉ flag.toList)
    (key : String) : ∃ request, command.request key = .ok request ∧ request.key = key := by
  unfold request
  split
  · exact ⟨_, rfl, rfl⟩
  · obtain ⟨content, helped⟩ := exists_helpText plain
    rw [helped]
    exact ⟨_, rfl, rfl⟩

end Argline
