/-
This file holds what the compositor reports about itself: its workspaces, its monitors,
the windows of its clients and the rules it keeps for workspaces. A snapshot is all four
at one time.
-/

namespace Deskbar

/-- How a report refers to a workspace. -/
structure WorkspaceReference where
  id : Int := 0
  name : String := ""
  deriving DecidableEq, Inhabited

/-- A workspace as the compositor reports it. The name is raw. -/
structure ReportedWorkspace where
  id : Int
  name : String
  monitor : String := ""
  windows : Nat := 0
  persistent : Bool := false
  deriving DecidableEq, Inhabited

/-- A monitor as the compositor reports it. -/
structure ReportedMonitor where
  id : Int := 0
  name : String
  x : Int := 0
  y : Int := 0
  focused : Bool := false
  active : WorkspaceReference := {}
  special : WorkspaceReference := {}
  deriving DecidableEq, Inhabited

/-- A window as the compositor reports it. The window with the focus has rank zero. -/
structure ReportedWindow where
  address : String
  windowClass : String := ""
  title : String := ""
  workspace : WorkspaceReference := {}
  focusRank : Int := -1
  deriving DecidableEq, Inhabited

/-- A rule for a workspace as the compositor reports it. -/
structure ReportedRule where
  workspace : String
  monitor : Option String := none
  persistent : Bool := false
  deriving DecidableEq, Inhabited

/-- Whether a window has the focus. -/
def ReportedWindow.hasFocus (report : ReportedWindow) : Bool := report.focusRank = 0

/-- What the compositor reports at one time. -/
structure Snapshot where
  workspaces : List ReportedWorkspace := []
  monitors : List ReportedMonitor := []
  windows : List ReportedWindow := []
  rules : List ReportedRule := []
  deriving DecidableEq, Inhabited

namespace Snapshot

/-- The first workspace with a raw name. -/
def byRawName? (snapshot : Snapshot) (name : String) : Option ReportedWorkspace :=
  snapshot.workspaces.find? fun report => report.name = name

/-- The first workspace with an id. -/
def byId? (snapshot : Snapshot) (id : Int) : Option ReportedWorkspace :=
  snapshot.workspaces.find? fun report => report.id = id

/-- The first monitor that has the focus. -/
def monitorInFocus? (snapshot : Snapshot) : Option ReportedMonitor :=
  snapshot.monitors.find? ReportedMonitor.focused

end Snapshot

end Deskbar
