/-
**Help pages keep their lines.**

The line feeds of a page are cut down as a whole. No entry loses one, as each of its lines begins with a
heading or with the spaces in front of the column.

* `HelpItem.Shows`: an entry that shows lines, each on a line of its own;
* `HelpItem.shows_of_render`: the items of a page show the lines of their help texts as such entries;
* `HelpItem.Presents`: an entry with all flags of an option and all lines of a text;
* `HelpGroup.sections`: a group, as it shows on a page;
* `HelpPage.render_sections`: a page is its top and its groups with one empty line in front of each.
-/

import Argline.Proofs.CommandLine.Flags
import Argline.Proofs.Help.Rendering
import Argline.Proofs.Joined
import Argline.Proofs.Text.Lines

namespace Argline

/-! ### Headings -/

section Flags

variable {flags : List String} {form : String}

/-- Flags with what follows each of them show all the flags. -/
theorem infix_flags {flag : String} (member : flag ∈ flags) :
    flag.toList <:+: (", ".intercalate (flags.map (· ++ form))).toList := by
  rw [String.toList_intercalate]
  refine List.IsInfix.trans ?_ (infix_intercalate
    (List.mem_map_of_mem (List.mem_map_of_mem member)))
  rw [String.toList_append]
  exact (List.prefix_append _ _).isInfix

/-- They are a part of one line if the flags and what follows them are. -/
theorem feed_notMem_flags (plain : ∀ flag ∈ flags, '\n' ∉ flag.toList)
    (flat : '\n' ∉ form.toList) : '\n' ∉ (", ".intercalate (flags.map (· ++ form))).toList := by
  intro inside
  rw [String.toList_intercalate] at inside
  rcases mem_of_mem_intercalate inside with between | ⟨text, member, inText⟩
  · exact absurd between (by decide)
  · obtain ⟨shown, inHeading, rfl⟩ := List.mem_map.mp member
    obtain ⟨flag, inFlags, rfl⟩ := List.mem_map.mp inHeading
    rw [String.toList_append, List.mem_append] at inText
    exact inText.elim (plain flag inFlags) flat

end Flags

theorem ParameterOption.heading_eq (option : ParameterOption) :
    option.heading =
      ", ".intercalate (option.flags.map (· ++ (" " ++ option.parameter.type.form))) := by
  simp only [heading, String.append_assoc]

theorem BuiltinOption.heading_eq (option : BuiltinOption) :
    option.heading = ", ".intercalate
      (option.flags.map (· ++ if option.builtin.takesValue then " " ++ nameForm else "")) := by
  unfold heading
  cases option.builtin.takesValue <;> simp [String.append_assoc]

/-- A heading is a part of one line if the flags of its option are. -/
theorem ParameterOption.feed_notMem_heading {option : ParameterOption}
    (flat : ∀ flag ∈ option.flags, '\n' ∉ flag.toList) : '\n' ∉ option.heading.toList := by
  rw [option.heading_eq]
  refine feed_notMem_flags flat ?_
  simpa using option.parameter.type.notMem_form (by decide)

theorem BuiltinOption.feed_notMem_heading {option : BuiltinOption}
    (flat : ∀ flag ∈ option.flags, '\n' ∉ flag.toList) : '\n' ∉ option.heading.toList := by
  rw [option.heading_eq]
  refine feed_notMem_flags flat ?_
  split <;> decide

/-! ### Help texts -/

theorem ParameterOption.helpText_ne_empty (option : ParameterOption) : option.helpText ≠ "" := by
  simp only [helpText]
  split
  · simp
  · simp

theorem BuiltinOption.helpText_ne_empty {option : BuiltinOption}
    (documented : option.builtin.doc ≠ "") (simulators : List String) (default : String) :
    option.helpText simulators default ≠ "" := by
  unfold helpText
  split
  · simp [documented]
  · exact documented

/-! ### Entries -/

/-- A line behind a number of spaces. -/
def indented (count : Nat) (line : String) : String := spaces count ++ line ++ "\n"

/-- An entry that shows some lines: each stands on a line of its own and begins in a column in front of
which there are only spaces; but the first one may stand behind the heading, with at least two spaces
between them. -/
inductive HelpItem.Shows (column : Nat) (heading : String) : List String → String → Prop
  | beside {first : String} {more : List String} (fits : heading.length + 4 ≤ column) :
    Shows column heading (first :: more) (String.join
      (indented 2 (heading ++ spaces (column - 2 - heading.length) ++ first) ::
        more.map (indented column)))
  | below {first : String} {more : List String} :
    Shows column heading (first :: more)
      (String.join (indented 2 heading :: (first :: more).map (indented column)))

/-- An entry that presents an option: all of its flags are in the heading, and all lines of a text show,
as they are. -/
structure HelpItem.Presents (column : Nat) (flags : List String) (heading text shown : String) :
    Prop where
  flags : ∀ flag ∈ flags, flag.toList <:+: heading.toList
  lines : ∃ lines : List String, Text.AreLines (lines.map String.toList) text.toList ∧
    Shows column heading lines shown

theorem toList_spaces (count : Nat) : (spaces count).toList = List.replicate count ' ' :=
  String.toList_ofList

theorem spaces_append (first second : Nat) :
    spaces first ++ spaces second = spaces (first + second) := by
  rw [← String.toList_inj, String.toList_append, toList_spaces, toList_spaces, toList_spaces,
    List.replicate_append_replicate]

/-- An indented line is not empty. -/
theorem isSolid_indented {count : Nat} (indents : 0 < count) {line : String}
    (plain : '\n' ∉ line.toList) : Text.IsSolid (indented count line).toList := by
  have shape : (indented count line).toList = (spaces count ++ line).toList ++ ['\n'] :=
    String.toList_append
  rw [shape]
  refine .line ?_ ?_
  · simp [toList_spaces, Nat.ne_of_gt indents]
  · simp [toList_spaces, plain]

namespace HelpItem

variable {column : Nat}

/-- **The items of a page show all lines of their help texts.** -/
theorem shows_of_render {item : HelpItem} {text : String} (roomy : 4 ≤ column)
    (template : item.template = Text.asTemplate text) (nonempty : text ≠ "") (program : String) :
    ∃ shown, item.render program column = .ok shown ∧
      Shows column item.heading (Text.linesOf text) shown := by
  have filled : Text.fill [(programKey, program)] item.template = .ok text := by
    rw [template, Text.fill_asTemplate]
  obtain ⟨first, more, lines⟩ : ∃ first more, Text.linesOf text = first :: more := by
    refine List.exists_cons_of_ne_nil fun none => ?_
    exact Text.lines_ne_nil (mt String.toList_eq_nil_iff.mp nonempty) (List.map_eq_nil_iff.mp none)
  have behind : indented column = fun line => spaces column ++ (line ++ "\n") :=
    funext fun line => String.append_assoc
  rw [lines]
  simp only [render, filled, bind, Except.bind, lines, pure, Except.pure]
  by_cases fits : item.heading.length ≤ column - 4
  · have gap : spaces (column - 2 - item.heading.length) =
        spaces (column - 4 - item.heading.length) ++ spaces 2 := by
      rw [spaces_append]
      congr 1
      omega
    refine ⟨_, ?_, .beside (by omega)⟩
    rw [if_pos fits, String.join_cons, gap, behind]
    simp only [indented, String.append_assoc]
  · refine ⟨_, ?_, .below⟩
    rw [if_neg fits, List.map_cons, String.join_cons, String.join_cons, behind]
    simp only [indented, String.append_assoc]

example : render "Flip" 16 ⟨"--n <Int>", Text.asTemplate "(Int) 50%\n\n  of %s"⟩ =
    .ok ("  --n <Int>     (Int) 50%\n" ++ "                \n" ++ "                  of %s\n") := by
  rfl

/-- An entry is lines none of which is empty. -/
theorem Shows.isSolid {heading : String} {lines : List String} {shown : String}
    (shows : Shows column heading lines shown) (roomy : 0 < column)
    (plain : '\n' ∉ heading.toList) (each : ∀ line ∈ lines, '\n' ∉ line.toList) :
    Text.IsSolid shown.toList := by
  have behind {more : List String} (within : more ⊆ lines) :
      ∀ text ∈ more.map (indented column), Text.IsSolid text.toList := by
    intro text member
    obtain ⟨line, inMore, rfl⟩ := List.mem_map.mp member
    exact isSolid_indented roomy (each line (within inMore))
  cases shows with
  | @beside first more fits =>
    refine .join (List.cons_ne_nil _ _) (List.forall_mem_cons.mpr ⟨?_, ?_⟩)
    · refine isSolid_indented Nat.two_pos ?_
      simp [plain, toList_spaces, each first List.mem_cons_self]
    · exact behind (List.subset_cons_self _ _)
  | @below first more =>
    refine .join (List.cons_ne_nil _ _) (List.forall_mem_cons.mpr ⟨?_, ?_⟩)
    · exact isSolid_indented Nat.two_pos plain
    · exact behind (List.Subset.refl _)

/-- An entry whose heading is made of flags, and that shows the lines of a text, presents them. -/
theorem Shows.presents {flags : List String} {form heading text shown : String}
    (headed : heading = ", ".intercalate (flags.map (· ++ form)))
    (shows : Shows column heading (Text.linesOf text) shown) :
    Presents column flags heading text shown where
  flags _ member := headed ▸ infix_flags member
  lines := ⟨_, Text.areLines_linesOf text, shows⟩

/-- **Items whose templates are made for texts show the texts**, as entries of one column. -/
theorem exists_entries {α : Type} (options : List α) (heading text : α → String) (column : Nat)
    (roomy : 4 ≤ column) (nonempty : ∀ option ∈ options, text option ≠ "")
    (flat : ∀ option ∈ options, '\n' ∉ (heading option).toList) (program : String) :
    ∃ entries, (options.map fun option => ⟨heading option, Text.asTemplate (text option)⟩).mapM
        (render program column) = .ok entries ∧
      List.Forall₂ (fun option shown => Shows column (heading option) (Text.linesOf (text option)) shown)
        options entries ∧
      ∀ entry ∈ entries, Text.IsSolid entry.toList := by
  obtain ⟨entries, pairs⟩ : ∃ entries, List.Forall₂ (fun option shown =>
      render program column ⟨heading option, Text.asTemplate (text option)⟩ = .ok shown ∧
        Shows column (heading option) (Text.linesOf (text option)) shown ∧
        Text.IsSolid shown.toList) options entries := by
    refine exists_forall₂ fun option member => ?_
    obtain ⟨shown, rendered, shows⟩ := shows_of_render roomy
      (rfl : (HelpItem.mk (heading option) (Text.asTemplate (text option))).template = _)
      (nonempty option member) program
    refine ⟨shown, rendered, shows, shows.isSolid (by omega) (flat option member) ?_⟩
    exact fun line inLines => Text.feed_notMem_of_mem_linesOf inLines
  refine ⟨entries, ?_, pairs.imp fun _ _ pair => pair.2.1, ?_⟩
  · rw [mapM_eq_ok_iff, List.forall₂_map_left_iff]
    exact pairs.imp fun _ _ pair => pair.1
  · exact forall_mem_of_forall₂ pairs.flip fun _ _ pair => pair.2.2

end HelpItem

/-! ### Groups -/

namespace HelpGroup

/-- A group as it shows on a page: its title and its entries. Without entries it does not show. -/
def sections (title : String) (entries : List String) : List String :=
  if entries.isEmpty then [] else [title ++ ":\n" ++ String.join entries]

theorem sections_eq_nil_iff {title : String} {entries : List String} :
    sections title entries = [] ↔ entries = [] := by
  unfold sections
  split
  · next none => simpa using none
  · next some => simpa using some

theorem render_eq_ok {group : HelpGroup} {program : String} {column : Nat} {entries : List String}
    (rendered : group.items.mapM (HelpItem.render program column) = .ok entries) :
    group.render program column = .ok (String.join
      ((sections group.title entries).map fun text => "\n" ++ text ++ "\n")) := by
  have pairs := mapM_eq_ok_iff.mp rendered
  rw [render, rendered]
  cases items : group.items with
  | nil =>
    rw [items, List.forall₂_nil_left_iff] at pairs
    rw [pairs]
    rfl
  | cons item rest =>
    rw [items] at pairs
    obtain ⟨entry, others, _, _, rfl⟩ := List.forall₂_cons_left_iff.mp pairs
    simp [sections, bind, Except.bind, pure, Except.pure, String.append_assoc]

/-- A group shows as lines none of which is empty. -/
theorem isSolid_of_mem_sections {title : String} (plain : '\n' ∉ title.toList)
    {entries : List String} (each : ∀ entry ∈ entries, Text.IsSolid entry.toList) {text : String}
    (member : text ∈ sections title entries) : Text.IsSolid text.toList := by
  unfold sections at member
  split at member
  · cases member
  · next some =>
    obtain rfl := List.mem_singleton.mp member
    have line : (title ++ ":\n").toList = (title ++ ":").toList ++ ['\n'] := by simp
    have heads : Text.IsSolid (title ++ ":\n").toList := by
      rw [line]
      exact .line (by simp) (by simp [plain])
    rw [String.toList_append]
    exact heads.append (.join (fun none => some (by simp [none])) each)

end HelpGroup

/-! ### Pages -/

/-- If a page has items, the longest heading is at least as long as its indentation. -/
theorem HelpPage.two_le_longest {page : HelpPage}
    (nonempty : page.groups.flatMap HelpGroup.items ≠ []) : 2 ≤ page.longest := by
  have above (items : List HelpItem) (least : Nat) :
      least ≤ items.foldl (fun length item => max length (item.heading.length + 2)) least := by
    induction items generalizing least with
    | nil => exact Nat.le_refl _
    | cons item rest ih => exact Nat.le_trans (Nat.le_max_left _ _) (ih _)
  unfold longest
  cases items : page.groups.flatMap HelpGroup.items with
  | nil => exact absurd items nonempty
  | cons first rest =>
    rw [List.foldl_cons]
    have bound := above rest (max 0 (first.heading.length + 2))
    omega

/-- The column of a page leaves room for the spaces in front of it. -/
theorem four_le_helpColumn (columns : Nat) {longest : Nat} (long : 2 ≤ longest) :
    4 ≤ helpColumn columns longest := by
  simp only [helpColumn]
  omega

/-- The summary of an entry point as it shows on a page. -/
def shownSummary (summary : String) : String :=
  if (Text.strip summary).isEmpty then "" else Text.strip summary ++ "\n\n"

theorem HelpPage.shownDescription_ofSchema (program summary : String) (schema : Schema)
    (simulators : List String) (default : String) :
    (ofSchema program summary schema simulators default).shownDescription =
      .ok (shownSummary summary) := by
  unfold shownDescription shownSummary ofSchema
  dsimp only
  cases described : describe summary with
  | none =>
    simp only [describe] at described
    split_ifs at described with empty
    rw [if_pos empty]
  | some description =>
    have some : ¬ (Text.strip summary).isEmpty = true := by
      intro empty
      simp [describe, empty] at described
    dsimp only
    rw [descriptionText_of_describe described, if_neg some]
    rfl

namespace Command

/-- The top of the help page: the line of usage and the summary. -/
def helpTop (command : Command) : String :=
  String.ofList (Text.squeezeBreaks ("usage: " ++ command.schema.usageText command.program ++ "\n\n" ++
    shownSummary command.summary).toList)

/-- A page that shows all options of a command: for each parameter and then for each built-in option that
is offered, in their order, an entry with all its flags in the heading and all lines of its help text. -/
structure ShowsHelp (command : Command) (content : String) (column : Nat)
    (declared offered : List String) : Prop where
  /-- The help text of a parameter is its type in parentheses, and its documentation if there is any. -/
  parameters : List.Forall₂ (fun option shown =>
      HelpItem.Presents column option.flags option.heading
        (if option.parameter.doc = "" then "(" ++ option.parameter.type.label ++ ")"
        else "(" ++ option.parameter.type.label ++ ") " ++ option.parameter.doc) shown)
    command.schema.parameters declared
  /-- The help text of a built-in option is its documentation. Behind that of the option that selects a
  simulator, the simulators and the default one are named. -/
  builtins : List.Forall₂ (fun option shown =>
      HelpItem.Presents column option.flags option.heading
        (if option.builtin.key = Builtin.simulatorKey then
          option.builtin.doc
            ++ (if ", ".intercalate command.simulators = "" then ""
              else " Available: " ++ ", ".intercalate command.simulators ++ ".")
            ++ (if command.defaultSimulator = "" then ""
              else " Default: " ++ command.defaultSimulator ++ ".")
        else option.builtin.doc) shown)
    (command.schema.builtins.filter fun option => !option.omitted) offered
  /-- The entries stand one below the other, in two groups under their titles, behind the top. -/
  layout : content = command.helpTop ++ "\n".intercalate
    (HelpGroup.sections "Options" declared ++ HelpGroup.sections "Driver options" offered)

/-- Sections keep all their lines behind the top of a page. -/
theorem page_eq_helpTop_append (command : Command) {sections : List String}
    (nonempty : sections ≠ []) (solid : ∀ text ∈ sections, Text.IsSolid text.toList) :
    String.ofList (Text.trimBreaks (Text.squeezeBreaks ("usage: " ++
        command.schema.usageText command.program ++ "\n\n" ++ shownSummary command.summary ++
        String.join (sections.map fun text => "\n" ++ text ++ "\n")).toList)) ++ "\n" =
      command.helpTop ++ "\n".intercalate sections := by
  obtain ⟨front, top⟩ : ∃ front, ("usage: " ++ command.schema.usageText command.program ++ "\n\n" ++
      shownSummary command.summary).toList = 'u' :: front ++ ['\n', '\n'] := by
    unfold shownSummary
    split
    · exact ⟨("sage: " ++ command.schema.usageText command.program).toList, by simp⟩
    · exact ⟨("sage: " ++ command.schema.usageText command.program ++ "\n\n" ++
        Text.strip command.summary).toList, by simp⟩
  have apart : ∀ characters ∈ sections.map String.toList, Text.IsSolid characters := by
    intro characters member
    obtain ⟨text, inSections, rfl⟩ := List.mem_map.mp member
    exact solid text inSections
  have opens : 'u' ≠ '\n' := by decide
  have kept := Text.trimBreaks_squeezeBreaks opens front (mt List.map_eq_nil_iff.mp nonempty) apart
  have joined : (String.join (sections.map fun text => "\n" ++ text ++ "\n")).toList =
      (sections.map String.toList).flatMap fun text => '\n' :: text ++ ['\n'] := by
    simp [List.flatMap_map]
  have newline : "\n".toList = ['\n'] := rfl
  rw [helpTop, ← String.toList_inj, String.toList_append, String.toList_ofList, String.toList_append,
    top, joined, String.toList_append, String.toList_ofList, String.toList_ofList,
    String.toList_intercalate, newline, ← kept]
  simp

/-- **There is a help page and it shows all options**, if every flag is a part of one line without a
percent sign and every built-in option has a documentation. -/
theorem exists_showsHelp {command : Command}
    (plain : ∀ target ∈ command.schema.targets, ∀ flag ∈ target.flags, '%' ∉ flag.toList)
    (flat : ∀ target ∈ command.schema.targets, ∀ flag ∈ target.flags, '\n' ∉ flag.toList)
    (documented : ∀ option ∈ command.schema.builtins, option.builtin.doc ≠ "")
    (some : command.schema.parameters ≠ [] ∨
      command.schema.builtins.filter (fun option => !option.omitted) ≠ []) :
    ∃ content column declared offered, command.helpText = .ok content ∧
      command.ShowsHelp content column declared offered := by
  let page := HelpPage.ofSchema command.program command.summary command.schema command.simulators
    command.defaultSimulator
  let column := helpColumn command.columns page.longest
  have roomy : 4 ≤ column := by
    refine four_le_helpColumn _ (HelpPage.two_le_longest fun none => ?_)
    simp only [page, HelpPage.ofSchema, List.flatMap_cons, List.flatMap_nil, List.append_eq_nil_iff,
      List.map_eq_nil_iff] at none
    exact some.elim (· none.1) (· none.2.1)
  obtain ⟨declared, parameters, shown, solid⟩ := HelpItem.exists_entries command.schema.parameters
    ParameterOption.heading ParameterOption.helpText column roomy
    (fun option _ => option.helpText_ne_empty)
    (fun option member => ParameterOption.feed_notMem_heading
      (flat _ ((Schema.parameter_mem_targets_iff option).mpr member)))
    command.program
  obtain ⟨offered, builtins, shown', solid'⟩ := HelpItem.exists_entries
    (command.schema.builtins.filter fun option => !option.omitted) BuiltinOption.heading
    (fun option => option.helpText command.simulators command.defaultSimulator) column roomy
    (fun option member => BuiltinOption.helpText_ne_empty
      (documented option (List.mem_of_mem_filter member)) _ _)
    (fun option member => BuiltinOption.feed_notMem_heading
      (flat _ ((Schema.builtin_mem_targets_iff option).mpr (List.mem_of_mem_filter member))))
    command.program
  have grouped : page.groups.mapM (HelpGroup.render page.program column) = .ok _ :=
    mapM_eq_ok_iff.mpr (.cons (HelpGroup.render_eq_ok parameters)
      (.cons (HelpGroup.render_eq_ok builtins) .nil))
  have rendered : page.render command.columns = .ok _ := HelpPage.render_eq_ok
    (Schema.fill_usage plain command.program) (HelpPage.shownDescription_ofSchema _ _ _ _ _) grouped
  have sections : HelpGroup.sections "Options" declared ++
      HelpGroup.sections "Driver options" offered ≠ [] := by
    rw [ne_eq, List.append_eq_nil_iff, HelpGroup.sections_eq_nil_iff, HelpGroup.sections_eq_nil_iff]
    rintro ⟨rfl, rfl⟩
    exact some.elim (· (List.forall₂_nil_right_iff.mp shown))
      (· (List.forall₂_nil_right_iff.mp shown'))
  have lines : ∀ text ∈ HelpGroup.sections "Options" declared ++
      HelpGroup.sections "Driver options" offered, Text.IsSolid text.toList := by
    intro text member
    rcases List.mem_append.mp member with early | late
    · exact HelpGroup.isSolid_of_mem_sections (by decide) solid early
    · exact HelpGroup.isSolid_of_mem_sections (by decide) solid' late
  have joined (first second : List String) : String.join [String.join first, String.join second] =
      String.join (first ++ second) := by
    simp
  rw [joined, ← List.map_append] at rendered
  refine ⟨_, column, declared, offered, ?_, ⟨?_, ?_, rfl⟩⟩
  · rw [← command.page_eq_helpTop_append sections lines]
    exact helpText_of_render rendered
  · refine shown.imp fun option _ shows => ?_
    rw [← option.helpText_eq]
    exact shows.presents option.heading_eq
  · refine shown'.imp fun option _ shows => ?_
    rw [← option.helpText_eq]
    exact shows.presents option.heading_eq

end Command

end Argline
