/-
This file follows the workspaces of the compositor. A workspace comes onto the bar with
its report, takes in the windows that the compositor counts to it and those that wait for
it, and leaves with its report. What the user declared is on the bar in any case.
-/

import Deskbar.Event.Basic
import Deskbar.Model.Ownership
import Deskbar.Sorting

namespace Deskbar.Model

/-! ### Reports -/

/-- Puts the window of a report on a workspace, unless it is there. -/
def gatherOne (bar : Bar) (key : Nat) (model : Model) (report : ReportedWindow) : Model :=
  let window :=
    Window.ofIdentity report.workspace.name report.address report.windowClass report.title
  if model.owners.get? window.address = some (.workspace key) then model
  else model.place bar key window

/-- Puts on a workspace the windows that the compositor counts to it. -/
def gather (bar : Bar) (snapshot : Snapshot) (key : Nat) (id : Int) (model : Model) : Model :=
  (snapshot.windows.filter fun report => report.workspace.id = id).foldl
    (gatherOne bar key) model

/-- Adds the workspace of a report under a new key. -/
def create (bar : Bar) (report : ReportedWorkspace) (model : Model) : Model :=
  let key := model.lastKey + 1
  let workspace := Workspace.ofReport key report
  let workspace :=
    { workspace with
      flags := { workspace.flags with persistentConfig := bar.declares workspace.name } }
  { model with
    workspaces := model.workspaces.insert key workspace
    lastKey := key }

/-- Brings the workspace of a report onto the bar, if the bar takes it in. One that is there takes
over the report. -/
def ensure (bar : Bar) (snapshot : Snapshot) (report : ReportedWorkspace) (model : Model) : Model :=
  let name := WorkspaceName.parse report.name
  if bar.takes name.shown report.monitor name.special then
    match model.forReport? report with
    | some workspace =>
      let model := model.update workspace.key fun workspace => workspace.adopt report
      if workspace.id.isSome then model.claim bar workspace.key
      else (model.gather bar snapshot workspace.key report.id).claim bar workspace.key
    | none =>
      let model := model.create bar report
      (model.gather bar snapshot model.lastKey report.id).claim bar model.lastKey
  else model

/-- Brings the workspace with a raw name onto the bar, or else the first one that windows refer to
by it. -/
def ensureNamed (bar : Bar) (snapshot : Snapshot) (raw : String) (model : Model) : Model :=
  let byReference :=
    snapshot.workspaces.find? fun report =>
      workspaceReference report.name = workspaceReference raw
  match (snapshot.byRawName? raw).or byReference with
  | some report => model.ensure bar snapshot report
  | none => model

/-! ### Announced changes -/

/-- The workspace that an announced destruction is about. -/
def destroyed? (model : Model) (id : Option Int) (raw : String) : Option Workspace :=
  (id.bind model.withId?).or (model.named? (shownName raw))

/-- Removes a workspace whose destruction was announced. -/
def removeIfDestroyed (snapshot : Snapshot) (model : Model) : WorkspaceChange → Model
  | .destroyed id raw =>
    match model.destroyed? id raw with
    | some workspace => model.remove snapshot workspace.key
    | none => model
  | _ => model

/-- Removes the workspaces whose destruction was announced. -/
def removeDestroyed (snapshot : Snapshot) (changes : List WorkspaceChange) (model : Model) :
    Model :=
  changes.foldl (removeIfDestroyed snapshot) model

/-- The name that a change says is gone. -/
def destroyedName? : WorkspaceChange → Option String
  | .destroyed _ raw => some (shownName raw)
  | _ => none

/-- Whether the bar takes in a workspace as it is now. -/
def keeps (bar : Bar) (workspace : Workspace) : Bool :=
  bar.takes workspace.name workspace.output workspace.flags.special

/-- Gives a workspace another raw name. It takes in the windows that wait for it under that name, or
goes if the bar does not take in such a workspace. -/
def rename (bar : Bar) (snapshot : Snapshot) (key : Nat) (raw : String) (model : Model) : Model :=
  match model.workspaces.get? key with
  | none => model
  | some workspace =>
    let renamed := workspace.rename raw
    let renamed :=
      { renamed with
        flags := { renamed.flags with persistentConfig := bar.declares renamed.name } }
    let model := model.update key fun _ => renamed
    if keeps bar renamed then model.claim bar key else model.remove snapshot key

/-- Puts a workspace on another output, where the bar may no longer take it in. -/
def relocate (bar : Bar) (snapshot : Snapshot) (key : Nat) (output : String) (model : Model) :
    Model :=
  match model.workspaces.get? key with
  | none => model
  | some workspace =>
    let moved := workspace.withOutput output
    let model := model.update key fun _ => moved
    if keeps bar moved then model else model.remove snapshot key

/-- Carries out a change that is not a removal. -/
def applyChange (bar : Bar) (snapshot : Snapshot) (model : Model) : WorkspaceChange → Model
  | .destroyed _ _ => model
  | .created id raw =>
    match (match id with | some id => snapshot.byId? id | none => snapshot.byRawName? raw) with
    | some report => model.ensure bar snapshot report
    | none => model
  | .renamed id raw =>
    match model.withId? id with
    | some workspace => model.rename bar snapshot workspace.key raw
    | none => model
  | .moved raw monitor =>
    match model.named? raw with
    | some workspace => model.relocate bar snapshot workspace.key monitor
    | none => model.ensureNamed bar snapshot raw
  | .activated raw =>
    match model.named? raw with
    | some _ => model
    | none => model.ensureNamed bar snapshot raw

/-- Carries out the changes that are not removals. -/
def applyChanges (bar : Bar) (snapshot : Snapshot) (changes : List WorkspaceChange)
    (model : Model) : Model :=
  changes.foldl (applyChange bar snapshot) model

/-! ### Agreement with the snapshot -/

/-- Adds a declared workspace that is not there, if the bar takes it in. -/
def addDeclared (bar : Bar) (model : Model) (raw : String) : Model :=
  let name := WorkspaceName.parse raw
  let output := bar.config.output.getD ""
  if (model.named? raw).isNone && bar.takes name.shown output name.special then
    let key := model.lastKey + 1
    { model with
      workspaces := model.workspaces.insert key (Workspace.declared key raw output)
      lastKey := key }
  else model

/-- Adds the declared workspaces that are not there. -/
def addAllDeclared (bar : Bar) (model : Model) : Model :=
  bar.persistent.foldl (addDeclared bar) model

/-- Whether the report of a workspace is gone, or is one that the bar does not take in. -/
def isStale (bar : Bar) (snapshot : Snapshot) (workspace : Workspace) : Bool :=
  match workspace.id with
  | none => false
  | some id =>
    match snapshot.byId? id with
    | none => true
    | some report =>
      let name := WorkspaceName.parse report.name
      !bar.takes name.shown report.monitor name.special

/-- Removes the workspaces whose reports are gone. -/
def removeStale (bar : Bar) (snapshot : Snapshot) (model : Model) : Model :=
  ((model.workspaces.values.filter (isStale bar snapshot)).map Workspace.key).foldl
    (fun model key => model.remove snapshot key) model

/-- Brings the reported workspaces onto the bar in the order of their ids, without those whose
shown names are excluded. -/
def ensureAll (bar : Bar) (snapshot : Snapshot) (excluded : List String) (model : Model) : Model :=
  ((sortBy (compareOn ReportedWorkspace.id) snapshot.workspaces).filter fun report =>
      !excluded.contains (shownName report.name)).foldl
    (fun model report => model.ensure bar snapshot report) model

/-- Makes the workspaces agree with the reports. -/
def align (bar : Bar) (snapshot : Snapshot) (excluded : List String) (model : Model) : Model :=
  (model.removeStale bar snapshot).ensureAll bar snapshot excluded

/-- Starts over from the reports. The focus stays, and keys are not given out again. -/
def startOver (bar : Bar) (snapshot : Snapshot) (model : Model) : Model :=
  (align bar snapshot []
    { model with
      workspaces := SortedMap.empty
      owners := SortedMap.empty
      orphans := SortedMap.empty }).addAllDeclared bar

end Deskbar.Model
