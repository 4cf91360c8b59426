/-
This file makes out from a snapshot what is true of every workspace: which ones are shown,
which one is on the monitor with the focus, and which ones are to stay. Nothing of this is
carried over from an earlier snapshot except urgency, which lasts until the workspace is
active.
-/

import Deskbar.Model.Windows

namespace Deskbar

/-- Whether a monitor shows the workspace with an id. The id zero stands for none. -/
def ReportedMonitor.shows (monitor : ReportedMonitor) (id : Int) : Bool :=
  id ≠ 0 && (monitor.active.id = id || monitor.special.id = id)

/-- Whether a rule of the compositor keeps a workspace. -/
def ReportedRule.keeps (rule : ReportedRule) (workspace : Workspace) : Bool :=
  rule.persistent && shownName rule.workspace = workspace.name &&
    (rule.monitor.all fun monitor => monitor = workspace.output)

namespace Snapshot

/-- Whether a workspace is on the monitor with the focus. -/
def showsActive (snapshot : Snapshot) (workspace : Workspace) : Bool :=
  workspace.id.any fun id => snapshot.monitorInFocus?.any fun monitor => monitor.shows id

/-- Whether a workspace is on some monitor. -/
def showsVisible (snapshot : Snapshot) (workspace : Workspace) : Bool :=
  workspace.id.any fun id => snapshot.monitors.any fun monitor => monitor.shows id

/-- The report of a workspace. -/
def reportOf? (snapshot : Snapshot) (workspace : Workspace) : Option ReportedWorkspace :=
  workspace.id.bind snapshot.byId?

/-- Whether the compositor keeps a workspace, as its report or a rule says. -/
def keepsByRule (snapshot : Snapshot) (workspace : Workspace) : Bool :=
  ((snapshot.reportOf? workspace).any ReportedWorkspace.persistent) ||
    snapshot.rules.any fun rule => rule.keeps workspace

/-- The address of the window with the focus. -/
def focusedAddress? (snapshot : Snapshot) : Option String :=
  (snapshot.windows.find? ReportedWindow.hasFocus).map fun report =>
    plainAddress report.address

end Snapshot

namespace Workspace

/-- The workspace with identity and window count as its report has them. -/
def reported (snapshot : Snapshot) (workspace : Workspace) : Workspace :=
  match snapshot.reportOf? workspace with
  | some report => workspace.adopt report
  | none => workspace

/-- Makes out what is true of a workspace. -/
def observe (bar : Bar) (snapshot : Snapshot) (workspace : Workspace) : Workspace :=
  let workspace := workspace.reported snapshot
  let active := snapshot.showsActive workspace
  { workspace with
    flags :=
      { workspace.flags with
        active := active
        persistentRule := snapshot.keepsByRule workspace
        persistentConfig := bar.declares workspace.name
        urgent := workspace.flags.urgent && !active
        visible := snapshot.showsVisible workspace } }

end Workspace

/-- Makes out what is true of every workspace, and which window has the focus. -/
def Model.observe (bar : Bar) (snapshot : Snapshot) (model : Model) : Model :=
  Model.shareFocus
    { model with
      focused := snapshot.focusedAddress?.or model.focused
      workspaces := model.workspaces.mapValues fun workspace =>
        workspace.observe bar snapshot }

end Deskbar
