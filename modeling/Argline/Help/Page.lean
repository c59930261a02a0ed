/-
**The help page.**

The page shows the line of usage, the description, and two groups of items: the options of the
parameters and the built-in options. An item is a heading and a help text, whose lines stand in a
column of their own; no line is wrapped.

* `HelpLayout`: where that column begins, for the width of the page and the longest heading;
* `HelpItem.render`, `HelpGroup.render`: the items in their columns;
* `HelpPage.render`: the page, or the fault of a template in it.
-/

import Argline.Help.Cell
import Argline.Text.Line

namespace Argline

/-- An option on the help page. -/
structure HelpItem where
  heading : String
  template : String
deriving DecidableEq, Repr

/-- Items under a title. -/
structure HelpGroup where
  title : String
  items : List HelpItem
deriving DecidableEq, Repr

/-- What a help page shows. -/
structure HelpPage where
  program : String
  /-- The line of usage, as a template. -/
  usage : String
  description : Option String
  groups : List HelpGroup
deriving DecidableEq, Repr

/-- A number of spaces. -/
def spaces (count : Nat) : String := String.ofList (List.replicate count ' ')

/-- The width of a page if it is not known. -/
def standardColumns : Nat := 80

/-- The column where help texts begin: two behind the longest heading, which is indented by two, but
no further than column 24, and leaving twenty-two columns of a narrow page as far as four remain. -/
def helpColumn (columns longest : Nat) : Nat :=
  let width := if columns = 0 then standardColumns else columns
  min (longest + 2) (min 24 (max (width - 22) 4))

namespace HelpItem

/-- The lines of an item with its help text in a column: on the line of the heading if it fits in
front of the column, and below it otherwise. -/
def render (program : String) (column : Nat) (item : HelpItem) :
    Except Text.TemplateFault String := do
  let content ← Text.fill [(programKey, program)] item.template
  let lead :=
    if item.heading.length ≤ column - 4 then
      spaces 2 ++ item.heading ++ spaces (column - 4 - item.heading.length) ++ spaces 2
    else spaces 2 ++ item.heading ++ "\n" ++ spaces column
  match Text.linesOf content with
  | [] => pure (spaces 2 ++ item.heading ++ "\n")
  | first :: more =>
    pure (lead ++ first ++ "\n" ++ String.join (more.map fun line => spaces column ++ line ++ "\n"))

end HelpItem

/-- The lines of a group; a group without items has none. -/
def HelpGroup.render (program : String) (column : Nat) (group : HelpGroup) :
    Except Text.TemplateFault String :=
  if group.items.isEmpty then pure ""
  else do
    let items ← group.items.mapM (HelpItem.render program column)
    pure ("\n" ++ group.title ++ ":\n" ++ String.join items ++ "\n")

namespace HelpPage

/-- The length of the longest heading with its indentation. -/
def longest (page : HelpPage) : Nat :=
  (page.groups.flatMap HelpGroup.items).foldl
    (fun length item => max length (item.heading.length + 2)) 0

/-- The text of a description. -/
def descriptionText (program description : String) : Except Text.TemplateFault String :=
  if namesProgram description then Text.fill [(programKey, program)] description
  else pure description

/-- The text of a page of a width. There are at most two line feeds in a row, none in front of the
first line, and one behind the last. -/
def render (columns : Nat) (page : HelpPage) : Except Text.TemplateFault String := do
  let usage ← Text.fill [(programKey, page.program)] page.usage
  let description ← match page.description with
    | some description => (descriptionText page.program description).map fun shown => shown ++ "\n\n"
    | none => pure ""
  let groups ← page.groups.mapM (HelpGroup.render page.program (helpColumn columns page.longest))
  let content := "usage: " ++ usage ++ "\n\n" ++ description ++ String.join groups
  pure (String.ofList (Text.trimBreaks (Text.squeezeBreaks content.toList)) ++ "\n")

/-- The page of a schema. -/
def ofSchema (program summary : String) (schema : Schema) (simulators : List String)
    (default : String) : HelpPage where
  program := program
  usage := schema.usage
  description := describe summary
  groups := [
    { title := "Options"
      items := schema.parameters.map fun option => ⟨option.heading, option.helpTemplate⟩ },
    { title := "Driver options"
      items := (schema.builtins.filter fun option => !option.omitted).map fun option =>
        ⟨option.heading, option.helpTemplate simulators default⟩ }]

end HelpPage

end Argline
