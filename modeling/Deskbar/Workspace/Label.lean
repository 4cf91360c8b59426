/-
This file makes the texts on the button of a workspace. A format holds names between
braces, and a label is the format with the names it knows replaced. The format is read
once from left to right: a brace opens a name, the next closing brace ends it, and what
has been put in is not read again. A name that is not known stays as it is written, and
so does a brace that is never closed.
-/

import Deskbar.Workspace

namespace Deskbar

/-- Fills a format in. An opened name is given by its characters so far, the last one first. -/
def Label.fill (value? : String → Option String) : Option (List Char) → List Char → List Char
  | none, [] => []
  | some opened, [] => '{' :: opened.reverse
  | none, c :: rest =>
    if c = '{' then fill value? (some []) rest else c :: fill value? none rest
  | some opened, c :: rest =>
    if c = '}' then
      let name := String.ofList opened.reverse
      let text :=
        match value? name with
        | some value => value.toList
        | none => ['{'] ++ opened.reverse ++ ['}']
      text ++ fill value? none rest
    else fill value? (some (c :: opened)) rest

namespace Workspace

/-- The text for a name in a format. -/
def placeholderText? (workspace : Workspace) (icon separator name : String) : Option String :=
  match name with
  | "id" => some ((workspace.id.map toString).getD "")
  | "name" => some workspace.name
  | "icon" => some icon
  | "windows" => some (Text.join separator workspace.windows.values)
  | _ => none

/-- The label for a workspace. -/
def label (format icon separator : String) (workspace : Workspace) : String :=
  String.ofList (Label.fill (workspace.placeholderText? icon separator) none format.toList)

/-- The name of a workspace and the texts of its windows, each on a line of its own. -/
def tooltip (workspace : Workspace) : String :=
  Text.join "\n" (workspace.name :: workspace.windows.values)

end Workspace

end Deskbar
