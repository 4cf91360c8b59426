/-
This file holds the work that has come in since the last tick. Changes wait in the order
in which they were announced. Of several creations of a workspace only the first one
waits, and when a workspace is destroyed its creation no longer has to be carried out.
-/

import Deskbar.Event.Basic

namespace Deskbar

/-- The names of the announcements that make work. Those that carry ids are taken, and not
those that say the same without. -/
def trackedEvents : List String :=
  ["workspacev2", "createworkspacev2", "destroyworkspacev2", "renameworkspace",
    "moveworkspacev2", "activespecial", "focusedmon", "openwindow", "closewindow",
    "movewindowv2", "windowtitlev2", "urgent", "activewindowv2", "configreloaded"]

/-- Whether an announcement makes work. -/
def isTracked (name : String) : Bool := trackedEvents.contains name

/-- Whether a change is the creation of a workspace under a raw name. -/
def WorkspaceChange.creates (name : String) : WorkspaceChange → Bool
  | .created _ other => other = name
  | _ => false

/-- Work that waits. -/
structure Backlog where
  workspaces : List WorkspaceChange := []
  windows : List WindowChange := []
  monitorsChanged : Bool := false
  configChanged : Bool := false
  deriving DecidableEq, Inhabited

namespace Backlog

/-- Whether nothing waits. -/
def isEmpty (backlog : Backlog) : Bool :=
  backlog.workspaces.isEmpty && backlog.windows.isEmpty && !backlog.monitorsChanged &&
    !backlog.configChanged

/-- The changes that wait once another one has been announced. -/
def pushWorkspace (changes : List WorkspaceChange) : WorkspaceChange → List WorkspaceChange
  | .created id name =>
    if changes.any (WorkspaceChange.creates name) then changes else changes ++ [.created id name]
  | .destroyed id name =>
    (changes.filter fun change => !change.creates name) ++ [.destroyed id name]
  | change => changes ++ [change]

/-- Takes in an event; `none` for one that makes no work. -/
def push? (event : Event) (backlog : Backlog) : Option Backlog :=
  match event with
  | .workspace change =>
    some { backlog with workspaces := pushWorkspace backlog.workspaces change }
  | .window change => some { backlog with windows := backlog.windows ++ [change] }
  | .specialActivated _ _ => some { backlog with monitorsChanged := true }
  | .monitorFocused _ _ => some { backlog with monitorsChanged := true }
  | .configReloaded => some { backlog with configChanged := true }
  | .other _ _ => none

/-- Takes in an event if it makes work. -/
def push (event : Event) (backlog : Backlog) : Backlog := (backlog.push? event).getD backlog

end Backlog

end Deskbar
