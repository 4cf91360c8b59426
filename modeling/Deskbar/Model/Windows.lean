/-
This file follows the windows of the compositor. An opened or moved window goes to the
workspace it refers to or waits for it; a window that has waited for too many ticks is
forgotten.
-/

import Deskbar.Event.Basic
import Deskbar.Model.Ownership

namespace Deskbar.Model

/-! ### Focus -/

/-- Says to every workspace which window has the focus. -/
def focusWorkspaces (model : Model) : Model :=
  { model with workspaces := model.workspaces.mapValues fun workspace =>
      workspace.focusOn model.focused }

/-- Says to a window that waits whether it has the focus. -/
def focusOrphan (model : Model) (address : String) : Model :=
  { model with orphans := model.orphans.modify address fun window =>
      window.withFocus (model.hasFocusOn address) }

/-- Says to windows that wait, one after the other, whether they have the focus. -/
def focusOrphans (addresses : List String) (model : Model) : Model :=
  addresses.foldl focusOrphan model

/-- Says to everyone which window has the focus. -/
def shareFocus (model : Model) : Model := focusOrphans model.orphans.keys model.focusWorkspaces

/-! ### Announced changes -/

/-- Whether an opened window is known already and where it belongs, be it on its workspace or among
those that wait for it. -/
def isReplay (window : Window) (model : Model) : Bool :=
  match model.owners.get? window.address, model.named? window.workspace with
  | some (.workspace owner), some workspace => owner = workspace.key
  | some .orphan, none =>
    match model.orphans.get? window.address with
    | some waiting => waiting.workspace = window.workspace
    | none => false
  | _, _ => false

/-- Takes in an opened window. -/
def openWindow (bar : Bar) (window : Window) (model : Model) : Model :=
  if model.isReplay window then model else model.settle bar window

/-- Moves a window. One that is not known is taken from the reports. -/
def moveWindow (bar : Bar) (snapshot : Snapshot) (address target : String) (model : Model) :
    Model :=
  let (withdrawn?, model) := model.withdraw address
  let reported? := (snapshot.window? address).map fun report =>
    Window.ofIdentity target address report.windowClass report.title
  match (withdrawn?.map fun window => window.sendTo target).or reported? with
  | some window => model.settle bar window
  | none => model

/-- Gives a window another title. A title that was not announced is taken from the reports. -/
def retitleWindow (bar : Bar) (snapshot : Snapshot) (address : String) (title : Option String)
    (model : Model) : Model :=
  match model.owners.get? address, snapshot.window? address with
  | some (.workspace key), some report =>
    let text := bar.rewriter.windowText report.windowClass (title.getD report.title)
    model.update key fun workspace => workspace.setText address text
  | some .orphan, report? =>
    match title.or (report?.map ReportedWindow.title) with
    | some title =>
      { model with orphans := model.orphans.modify address fun window =>
          (window.retitle? title).getD window }
    | none => model
  | _, _ => model

/-- The workspace that a window is on, according to the index or else to the reports. -/
def workspaceOf? (snapshot : Snapshot) (address : String) (model : Model) : Option Nat :=
  match model.owners.get? address with
  | some (.workspace key) => some key
  | _ =>
    ((snapshot.window? address).bind fun report => model.withId? report.workspace.id).map
      Workspace.key

/-- Marks the workspace that a window is on as urgent. -/
def markUrgent (snapshot : Snapshot) (address : String) (model : Model) : Model :=
  match model.workspaceOf? snapshot address with
  | some key =>
    model.update key fun workspace =>
      { workspace with flags := { workspace.flags with urgent := true } }
  | none => model

/-- Carries out a change of a window. -/
def applyWindowChange (bar : Bar) (snapshot : Snapshot) (model : Model) : WindowChange → Model
  | .opened address target windowClass title =>
    model.openWindow bar (Window.ofIdentity target address windowClass title)
  | .closed address => (model.withdraw (plainAddress address)).2
  | .moved address target => model.moveWindow bar snapshot (plainAddress address) target
  | .retitled address title => model.retitleWindow bar snapshot (plainAddress address) title
  | .urgent address => model.markUrgent snapshot (plainAddress address)
  | .focused address =>
    shareFocus { model with focused := address.map plainAddress }

/-- Carries out changes of windows. -/
def applyWindowChanges (bar : Bar) (snapshot : Snapshot) (changes : List WindowChange)
    (model : Model) : Model :=
  changes.foldl (applyWindowChange bar snapshot) model

/-! ### Waiting -/

/-- Lets a window that waits grow older by a tick, and forgets it when it has waited too long. -/
def growOrphan (bar : Bar) (model : Model) (address : String) : Model :=
  match model.orphans.get? address with
  | none => model
  | some window =>
    if bar.config.retryBudget < window.grow.age then
      { model with
        orphans := model.orphans.erase address
        owners := model.owners.erase address }
    else { model with orphans := model.orphans.modify address Window.grow }

/-- Lets windows that wait grow older, one after the other. -/
def growOrphans (bar : Bar) (addresses : List String) (model : Model) : Model :=
  addresses.foldl (growOrphan bar) model

end Deskbar.Model
