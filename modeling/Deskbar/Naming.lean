/-
This file says how windows and workspaces are told apart by text. A window has an address,
which replies write with a hexadecimal lead and events without one. A workspace has a raw
name, in which a lead may say that it is a special workspace or that it has no number; what
is shown is the name without the lead. Windows refer to a workspace by its shown name up to
the first space.
-/

import Deskbar.Text.Pieces

namespace Deskbar

/-- An address without the lead that replies put in front of it. -/
def plainAddress (address : String) : String :=
  match Text.afterLead ['0', 'x'] address.toList with
  | some rest => String.ofList rest
  | none => address

/-- What a raw name says: the name to show, and whether the workspace is special. -/
structure WorkspaceName where
  shown : String
  special : Bool
  deriving DecidableEq, Inhabited

namespace WorkspaceName

/-- The raw name of the special workspace without a name of its own. -/
def bareSpecial : String := "special"

/-- The lead of a workspace that has a name in place of a number. -/
def namedLead : String := "name:"

/-- The lead of a special workspace. -/
def specialLead : String := "special:"

/-- What a raw name says. -/
def parse (raw : String) : WorkspaceName :=
  match Text.afterLead namedLead.toList raw.toList with
  | some rest => ⟨String.ofList rest, false⟩
  | none =>
    if raw = bareSpecial then ⟨raw, true⟩
    else
      match Text.afterLead specialLead.toList raw.toList with
      | some rest => ⟨String.ofList rest, true⟩
      | none => ⟨raw, false⟩

end WorkspaceName

/-- The name to show for a workspace with a raw name. -/
def shownName (raw : String) : String := (WorkspaceName.parse raw).shown

/-- How windows refer to a workspace with a raw name. -/
def workspaceReference (raw : String) : String :=
  String.ofList ((shownName raw).toList.takeWhile (· ≠ ' '))

end Deskbar
