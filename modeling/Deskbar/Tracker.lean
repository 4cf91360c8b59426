/-
This file keeps the bar in step with the compositor. Announcements only make work, and all
of the work is done in a tick, against a snapshot: removals come first, then the other
changes of workspaces, agreement with the reports, the changes of windows in the order in
which they were announced, and at last the flags and the order of the buttons. The first
tick, and one after the compositor has read its configuration again, start over instead.
-/

import Deskbar.Button
import Deskbar.Model.Check
import Deskbar.Model.Flags
import Deskbar.Model.Workspaces
import Deskbar.Backlog
import Deskbar.Workspace.Arrangement

namespace Deskbar

/-- A bar with what it knows, what it shows and the work that waits. -/
structure Tracker where
  bar : Bar
  model : Model := Model.empty
  /-- The keys of the workspaces in the order of their buttons. -/
  display : List Nat := []
  backlog : Backlog := {}
  /-- Whether there has been a tick. -/
  loaded : Bool := false

namespace Tracker

/-- A bar that has been told nothing yet. -/
def ofConfig [Pattern.Engine] (config : BarConfig) : Tracker := { bar := Bar.ofConfig config }

/-- Takes in an event. -/
def push (event : Event) (tracker : Tracker) : Tracker :=
  { tracker with backlog := tracker.backlog.push event }

/-- Takes in events, one after the other. -/
def pushAll (events : List Event) (tracker : Tracker) : Tracker :=
  events.foldl (fun tracker event => tracker.push event) tracker

/-- Does the work that waits. -/
def catchUp (bar : Bar) (snapshot : Snapshot) (backlog : Backlog) (model : Model) : Model :=
  let aging := model.orphans.keys
  let model := model.removeDestroyed snapshot backlog.workspaces
  let model := model.applyChanges bar snapshot backlog.workspaces
  let model := model.align bar snapshot (backlog.workspaces.filterMap Model.destroyedName?)
  let model := model.addAllDeclared bar
  let model := model.applyWindowChanges bar snapshot backlog.windows
  model.growOrphans bar aging

/-- What the bar knows after a tick. -/
def nextModel (snapshot : Snapshot) (tracker : Tracker) : Model :=
  let bar := tracker.bar
  let model :=
    if tracker.loaded && !tracker.backlog.configChanged then
      catchUp bar snapshot tracker.backlog tracker.model
    else tracker.model.startOver bar snapshot
  model.observe bar snapshot

/-- Brings the bar in step with a snapshot. -/
def tick (snapshot : Snapshot) (tracker : Tracker) : Tracker :=
  let model := tracker.nextModel snapshot
  let sorted :=
    tracker.bar.config.arrangement.sort snapshot.monitors model.workspaces.values
  { tracker with
    model := model
    display := sorted.map Workspace.key
    backlog := {}
    loaded := true }

/-- The workspaces in the order of their buttons, hidden ones too. -/
def workspaces (tracker : Tracker) : List Workspace :=
  tracker.display.filterMap tracker.model.workspaces.get?

/-- The buttons that the bar shows. -/
def buttons (tracker : Tracker) : List Button :=
  (tracker.workspaces.filter fun workspace => workspace.passes tracker.bar.config).map
    (Button.ofWorkspace tracker.bar)

/-- The command that makes the compositor show the workspace that a name means. -/
def command? (name : String) (tracker : Tracker) : Option String :=
  (tracker.model.named? name).map fun workspace =>
    workspace.command tracker.bar.config.moveToMonitor

end Tracker

end Deskbar
