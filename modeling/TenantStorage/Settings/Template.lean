/-!
# Name templates

A template is a text in which `{project}` stands for the identifier of a project.

* `Template.ofText` — the template written in a text.
* `Template.hasPlaceholder` — whether the project occurs in it at all.
* `Template.fill` — the name for a project.
-/

namespace TenantStorage.Settings

/-- A part of a template. -/
inductive Template.Part where
  | char (c : Char)
  /-- The place of the project's identifier. -/
  | project
deriving DecidableEq, Repr

/-- Literal characters and places for the project's identifier. -/
abbrev Template := List Template.Part

namespace Template

/-- The parts of a written template, placeholders being recognised from the left. -/
def ofChars : List Char → Template
  | '{' :: 'p' :: 'r' :: 'o' :: 'j' :: 'e' :: 'c' :: 't' :: '}' :: rest => .project :: ofChars rest
  | c :: rest => .char c :: ofChars rest
  | [] => []

/-- The template written in a text. -/
def ofText (text : String) : Template := ofChars text.toList

/-- Whether the project's identifier occurs in the names that a template makes. -/
def hasPlaceholder (template : Template) : Bool := template.contains .project

/-- What a part becomes. -/
def Part.fill (project : List Char) : Part → List Char
  | char c => [c]
  | .project => project

/-- The name for a project. -/
def fill (template : Template) (project : String) : String :=
  String.ofList (template.flatMap (Part.fill project.toList))

end Template

end TenantStorage.Settings
