/-
This file holds what a bar draws for a workspace: one button with its texts, the classes
that decide its style, and the command for a click.
-/

import Deskbar.Bar
import Deskbar.Json.Basic
import Deskbar.Workspace.Label

namespace Deskbar

/-- What a bar draws for one workspace. -/
structure Button where
  id : Option Int
  name : String
  output : String
  label : String
  tooltip : String
  windows : Nat
  /-- The text of the window with the focus, when it is on the workspace. -/
  activeWindow : Option String
  classes : List String
  command : String
  deriving DecidableEq, Inhabited

namespace Button

/-- The classes for a workspace, in a fixed order. -/
def classesOf (bar : Bar) (workspace : Workspace) : List String :=
  [(workspace.flags.active, "active"), (workspace.flags.special, "special"),
    (workspace.isEmpty, "empty"), (workspace.isKept, "persistent"),
    (workspace.flags.urgent, "urgent"), (workspace.flags.visible, "visible"),
    (decide (bar.config.output = some workspace.output), "hosting-monitor")].filterMap
    fun candidate => if candidate.1 then some candidate.2 else none

/-- The button for a workspace. -/
def ofWorkspace (bar : Bar) (workspace : Workspace) : Button :=
  { id := workspace.id
    name := workspace.name
    output := workspace.output
    label := workspace.label bar.config.format (workspace.icon bar.config.icons)
      bar.config.windowSeparator
    tooltip := workspace.tooltip
    windows := workspace.windowCount
    activeWindow := workspace.focusedText?
    classes := classesOf bar workspace
    command := workspace.command bar.config.moveToMonitor }

/-- A button as a document. -/
def document (button : Button) : Json :=
  .object [
    ("id", match button.id with | some id => Json.whole id | none => .null),
    ("name", .string button.name),
    ("output", .string button.output),
    ("label", .string button.label),
    ("tooltip", .string button.tooltip),
    ("windows", Json.whole button.windows),
    ("active_window", Json.text? button.activeWindow),
    ("classes", Json.texts button.classes),
    ("command", .string button.command)]

/-- A row of buttons as a document. -/
def documentOf (buttons : List Button) : Json := .array (buttons.map document)

end Button

end Deskbar
