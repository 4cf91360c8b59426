/-
This file holds what the bar knows: its workspaces, the windows that wait for one, and an
index that says for every window who has it. A window that belongs to no workspace on the
bar waits as an orphan until its workspace turns up.
-/

import Deskbar.Workspace

namespace Deskbar

/-- Who has a window. -/
inductive Owner where
  | workspace (key : Nat)
  | orphan
  deriving DecidableEq, Inhabited

/-- What the bar knows. -/
structure Model where
  /-- The workspaces by key. -/
  workspaces : SortedMap Nat Workspace
  /-- Who has a window, by its address. -/
  owners : SortedMap String Owner
  /-- The windows that wait, by address. -/
  orphans : SortedMap String Window
  /-- The address of the window with the focus. -/
  focused : Option String
  /-- The key that was given out last. -/
  lastKey : Nat
  deriving DecidableEq

namespace Model

/-- What the bar knows before it has been told anything. -/
def empty : Model :=
  { workspaces := SortedMap.empty
    owners := SortedMap.empty
    orphans := SortedMap.empty
    focused := none
    lastKey := 0 }

instance : Inhabited Model := ⟨empty⟩

/-! ### Lookup -/

/-- The oldest workspace of which something is true. -/
def first? (model : Model) (test : Workspace → Bool) : Option Workspace :=
  model.workspaces.values.find? test

/-- The workspace that the compositor reports under an id. -/
def withId? (model : Model) (id : Int) : Option Workspace :=
  model.first? fun workspace => workspace.id = some id

/-- The workspace that a name means: the one that shows the name, or else the one that windows
refer to by it. -/
def named? (model : Model) (name : String) : Option Workspace :=
  (model.first? fun workspace => workspace.name = shownName name).or
    (model.first? fun workspace => workspace.reference = workspaceReference name)

/-- The workspace that a report is about: the one with its id, or else one with its name that has
not been reported yet. -/
def forReport? (model : Model) (report : ReportedWorkspace) : Option Workspace :=
  (model.withId? report.id).or
    (model.first? fun workspace =>
      workspace.id.isNone && workspace.name = shownName report.name)

/-- Who has the window with an address, which may have the lead that replies write. -/
def ownerOf? (model : Model) (address : String) : Option Owner :=
  model.owners.get? (plainAddress address)

/-! ### Updates -/

/-- Changes one workspace. -/
def update (key : Nat) (change : Workspace → Workspace) (model : Model) : Model :=
  { model with workspaces := model.workspaces.modify key change }

/-- Whether a window has the focus. -/
def hasFocusOn (model : Model) (address : String) : Bool := model.focused = some address

end Model

/-- The report on the window with an address. -/
def Snapshot.window? (snapshot : Snapshot) (address : String) : Option ReportedWindow :=
  snapshot.windows.find? fun report => plainAddress report.address = address

end Deskbar
