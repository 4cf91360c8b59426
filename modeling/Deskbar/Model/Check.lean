/-
This file checks that the index and the owners agree: every window has one owner, and the
index names that owner and nobody else.
-/

import Deskbar.Model.Basic

namespace Deskbar

/-- How the index and the owners disagree. -/
inductive OwnershipFault where
  | ownedTwice (address : String) (key : Nat)
  | misplaced (address : String) (key : Nat) (indexed : Option Owner)
  | ownedAndWaiting (address : String)
  | waitingElsewhere (address : String)
  | miscounted (indexed held : Nat)
  deriving DecidableEq

/-- The words for what the index says. -/
def OwnershipFault.indexWords : Option Owner → String
  | none => "None"
  | some .orphan => "Some(Orphan)"
  | some (.workspace key) => "Some(Workspace(WorkspaceKey(" ++ toString key ++ ")))"

/-- The text that tells how the index and the owners disagree. -/
def OwnershipFault.message : OwnershipFault → String
  | .ownedTwice address key =>
    address ++ " owned twice (found again in #" ++ toString key ++ ")"
  | .misplaced address key indexed =>
    address ++ " in #" ++ toString key ++ " but index says " ++ indexWords indexed
  | .ownedAndWaiting address => address ++ " is both owned and orphaned"
  | .waitingElsewhere address => address ++ " orphaned but index disagrees"
  | .miscounted indexed held =>
    "index has " ++ toString indexed ++ " entries for " ++ toString held ++ " windows"

namespace Model

/-- The addresses of the windows on workspaces, each with the key of its workspace. -/
def placed (model : Model) : List (String × Nat) :=
  model.workspaces.entries.flatMap fun entry =>
    entry.2.windows.keys.map fun address => (address, entry.1)

/-- Checks one window on a workspace against those seen before. -/
def checkPlaced (model : Model) (seen : List String) (entry : String × Nat) :
    Except OwnershipFault (List String) :=
  if seen.contains entry.1 then .error (.ownedTwice entry.1 entry.2)
  else if model.owners.get? entry.1 ≠ some (.workspace entry.2) then
    .error (.misplaced entry.1 entry.2 (model.owners.get? entry.1))
  else .ok (entry.1 :: seen)

/-- Checks one window that waits against those seen before. -/
def checkWaiting (model : Model) (seen : List String) (address : String) :
    Except OwnershipFault (List String) :=
  if seen.contains address then .error (.ownedAndWaiting address)
  else if model.owners.get? address ≠ some .orphan then .error (.waitingElsewhere address)
  else .ok (address :: seen)

/-- Checks that the index and the owners agree. -/
def checkOwnership (model : Model) : Except OwnershipFault Unit := do
  let seen ← model.placed.foldlM model.checkPlaced []
  let seen ← model.orphans.keys.foldlM model.checkWaiting seen
  if seen.length = model.owners.size then return ()
  else .error (.miscounted model.owners.size seen.length)

end Model

end Deskbar
