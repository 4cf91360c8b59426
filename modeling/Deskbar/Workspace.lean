/-
This file holds the workspaces of the bar. The compositor reports a workspace under an id;
one that the user declared may be on the bar before it is reported, and stays there after
it is gone. A workspace keeps the texts of its windows by address, and at most one of its
windows has the focus.
-/

import Deskbar.Report.Basic
import Deskbar.SortedMap
import Deskbar.Window

namespace Deskbar

/-- What is true of a workspace at a time. -/
structure Workspace.Flags where
  active : Bool := false
  special : Bool := false
  /-- A rule of the compositor keeps the workspace. -/
  persistentRule : Bool := false
  /-- The configuration keeps the workspace. -/
  persistentConfig : Bool := false
  urgent : Bool := false
  visible : Bool := false
  deriving DecidableEq, Inhabited

/-- A workspace on the bar. -/
structure Workspace where
  /-- Keys are given out in the order of creation, each one once. -/
  key : Nat
  /-- The id that the compositor reports, if it does. -/
  id : Option Int
  name : String
  /-- How windows refer to the workspace. -/
  reference : String
  output : String
  flags : Workspace.Flags
  /-- How many windows the compositor counts, which need not be how many are held. -/
  windowCount : Nat
  /-- The texts of the windows by address. -/
  windows : SortedMap String String
  /-- The address of the window with the focus, when it is here. -/
  focused : Option String
  deriving DecidableEq

namespace Workspace

/-! ### Identity -/

/-- A workspace under a raw name, not reported and without windows. -/
def unreported (key : Nat) (raw output : String) : Workspace :=
  let name := WorkspaceName.parse raw
  { key := key
    id := none
    name := name.shown
    reference := workspaceReference raw
    output := output
    flags := { special := name.special }
    windowCount := 0
    windows := SortedMap.empty
    focused := none }

/-- A workspace that the user declared and the compositor does not report. -/
def declared (key : Nat) (raw output : String) : Workspace :=
  let workspace := unreported key raw output
  { workspace with flags := { workspace.flags with persistentConfig := true } }

/-- A workspace that the compositor reports. -/
def ofReport (key : Nat) (report : ReportedWorkspace) : Workspace :=
  let workspace := unreported key report.name report.monitor
  { workspace with
    id := some report.id
    flags := { workspace.flags with persistentRule := report.persistent }
    windowCount := report.windows }

/-- Gives a workspace another raw name. -/
def rename (workspace : Workspace) (raw : String) : Workspace :=
  let name := WorkspaceName.parse raw
  { workspace with
    name := name.shown
    reference := workspaceReference raw
    flags := { workspace.flags with special := name.special } }

/-- Takes over identity and window count from a report. -/
def adopt (workspace : Workspace) (report : ReportedWorkspace) : Workspace :=
  { workspace.rename report.name with
    id := some report.id
    output := report.monitor
    windowCount := report.windows }

/-- Lets go of a workspace that the compositor has dropped and the configuration keeps. -/
def letGo (workspace : Workspace) : Workspace :=
  { workspace with
    id := none
    windowCount := 0
    flags := { workspace.flags with active := false, visible := false, urgent := false } }

/-- Puts a workspace on another output. -/
def withOutput (workspace : Workspace) (output : String) : Workspace :=
  { workspace with output := output }

/-- Whether a workspace is to stay. -/
def isKept (workspace : Workspace) : Bool :=
  workspace.flags.persistentRule || workspace.flags.persistentConfig

/-- Whether the compositor counts no windows. -/
def isEmpty (workspace : Workspace) : Bool := workspace.windowCount = 0

/-! ### Windows -/

/-- Whether a window is here. -/
def holds (workspace : Workspace) (address : String) : Bool := workspace.windows.contains address

/-- Whether a window here has the focus. -/
def hasFocusOn (workspace : Workspace) (address : String) : Bool :=
  workspace.focused = some address

/-- Moves the focus to a window. Without an address, or with one that is not here, no window
here has the focus. -/
def focusOn (workspace : Workspace) (address : Option String) : Workspace :=
  { workspace with focused := address.filter workspace.holds }

/-- The text of the window with the focus. -/
def focusedText? (workspace : Workspace) : Option String :=
  workspace.focused.bind workspace.windows.get?

/-- Puts a window in. One without class and title, or without a text, is left out. -/
def takeIn (rewriter : Rewriter) (window : Window) (workspace : Workspace) : Workspace :=
  let text := window.text rewriter
  if window.isBlank rewriter.readsTitle || text.isEmpty then workspace
  else
    { workspace with
      windows := workspace.windows.insert window.address text
      focused := if window.active then some window.address else workspace.focused }

/-- Takes a window out. -/
def dismiss (workspace : Workspace) (address : String) : Workspace :=
  { workspace with
    windows := workspace.windows.erase address
    focused := if workspace.hasFocusOn address then none else workspace.focused }

/-- Replaces the text of a window that is here. -/
def setText (workspace : Workspace) (address text : String) : Workspace :=
  { workspace with windows := workspace.windows.modify address fun _ => text }

/-- Takes all windows out. -/
def clearWindows (workspace : Workspace) : Workspace :=
  { workspace with windows := SortedMap.empty, focused := none }

/-! ### Appearance -/

/-- Whether the filters of the bar let a workspace through. -/
def passes (config : BarConfig) (workspace : Workspace) : Bool :=
  let flags := workspace.flags
  if config.persistentOnly && !workspace.isKept then false
  else if config.activeOnly &&
      !(flags.active || workspace.isKept || flags.visible || flags.special) then false
  else !(config.specialVisibleOnly && flags.special && !flags.visible)

/-- The names under which an icon may be configured, those that go first in front. -/
def iconNames (workspace : Workspace) : List String :=
  [(workspace.flags.urgent, "urgent"), (workspace.flags.active, "active"),
    (workspace.flags.special, "special"), (true, workspace.name),
    (workspace.flags.visible, "visible"), (workspace.isEmpty, "empty"),
    (workspace.isKept, "persistent"), (true, "default")].filterMap
    fun candidate => if candidate.1 then some candidate.2 else none

/-- The icon for a workspace; its name when none is configured. -/
def icon (icons : SortedMap String String) (workspace : Workspace) : String :=
  (workspace.iconNames.findSome? icons.get?).getD workspace.name

/-- The command that makes the compositor show a workspace. -/
def command (toMonitor : Bool) (workspace : Workspace) : String :=
  let focus := if toMonitor then "focusworkspaceoncurrentmonitor" else "workspace"
  let byName :=
    if !workspace.flags.special then "dispatch " ++ focus ++ " name:" ++ workspace.name
    else if workspace.name = WorkspaceName.bareSpecial then "dispatch togglespecialworkspace"
    else "dispatch togglespecialworkspace " ++ workspace.name
  match workspace.id with
  | some id => if 0 < id then "dispatch " ++ focus ++ " " ++ toString id else byName
  | none => byName

end Workspace

end Deskbar
