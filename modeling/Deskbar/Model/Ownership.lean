/-
This file moves windows between owners. Every window has one owner at a time, and the
index names it: whoever gets a window, the window is first taken from where it is.
-/

import Deskbar.Bar
import Deskbar.Model.Basic

namespace Deskbar.Model

/-! ### Single windows -/

/-- Takes a window from its owner. The window that is given back is on the workspace it was
taken from. -/
def withdraw (address : String) (model : Model) : Option Window × Model :=
  match model.owners.get? address with
  | none => (none, model)
  | some (.workspace key) =>
    let model := { model with owners := model.owners.erase address }
    match model.workspaces.get? key with
    | none => (none, model)
    | some workspace =>
      ((workspace.windows.get? address).map (Window.ofText workspace.name address),
        model.update key fun workspace => workspace.dismiss address)
  | some .orphan =>
    (model.orphans.get? address,
      { model with
        owners := model.owners.erase address
        orphans := model.orphans.erase address })

/-- Gives a window to a workspace. A window that the workspace leaves out has no owner. -/
def place (bar : Bar) (key : Nat) (window : Window) (model : Model) : Model :=
  let model := (model.withdraw window.address).2
  let window := window.withFocus (model.hasFocusOn window.address)
  match model.workspaces.get? key with
  | none => model
  | some workspace =>
    let workspace := workspace.takeIn bar.rewriter window
    let model := model.update key fun _ => workspace
    if workspace.holds window.address then
      { model with owners := model.owners.insert window.address (.workspace key) }
    else model

/-- Lets a window wait. -/
def orphan (window : Window) (model : Model) : Model :=
  let model := (model.withdraw window.address).2
  let window := window.withFocus (model.hasFocusOn window.address)
  { model with
    orphans := model.orphans.insert window.address window
    owners := model.owners.insert window.address .orphan }

/-- Gives a window to the workspace it refers to, or lets it wait for it. -/
def settle (bar : Bar) (window : Window) (model : Model) : Model :=
  match model.named? window.workspace with
  | some workspace => model.place bar workspace.key window
  | none => model.orphan window

/-! ### Windows that wait -/

/-- The addresses of the windows that wait for a workspace by a reference. -/
def waitingFor (reference : String) (model : Model) : List String :=
  (model.orphans.entries.filter fun entry => entry.2.workspace = reference).map Prod.fst

/-- Gives a window that waits to a workspace. -/
def claimOne (bar : Bar) (key : Nat) (model : Model) (address : String) : Model :=
  match model.orphans.get? address with
  | none => model
  | some window =>
    place bar key window
      { model with
        orphans := model.orphans.erase address
        owners := model.owners.erase address }

/-- Gives windows that wait to a workspace, one after the other. -/
def claimEach (bar : Bar) (key : Nat) (addresses : List String) (model : Model) : Model :=
  addresses.foldl (claimOne bar key) model

/-- Gives a workspace every window that waits for it. -/
def claim (bar : Bar) (key : Nat) (model : Model) : Model :=
  match model.workspaces.get? key with
  | none => model
  | some workspace => model.claimEach bar key (model.waitingFor workspace.reference)

/-! ### Removal of workspaces -/

/-- Lets a window of a removed workspace wait where the compositor has it now, and forgets one
that the compositor no longer has. -/
def abandon (snapshot : Snapshot) (model : Model) (entry : String × String) : Model :=
  let model := { model with owners := model.owners.erase entry.1 }
  match snapshot.window? entry.1 with
  | some report => model.orphan (Window.ofText report.workspace.name entry.1 entry.2)
  | none => model

/-- Removes a workspace. One that the configuration keeps stays, without its windows. -/
def remove (snapshot : Snapshot) (key : Nat) (model : Model) : Model :=
  match model.workspaces.get? key with
  | none => model
  | some workspace =>
    let left :=
      if workspace.flags.persistentConfig then
        model.update key fun workspace => workspace.clearWindows.letGo
      else { model with workspaces := model.workspaces.erase key }
    workspace.windows.entries.foldl (abandon snapshot) left

end Deskbar.Model
