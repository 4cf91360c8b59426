/-
This file holds what the compositor announces while it runs. An announcement is a record,
a name and a payload with a separator between them, and its name decides into which fields
the payload is cut. Names of workspaces are raw here, and addresses are as they came.
-/

import Deskbar.Text.Blank
import Deskbar.Text.Numeral
import Deskbar.Text.Pieces
import Deskbar.Text.Quoted

namespace Deskbar

/-! ### Records -/

/-- An announcement with its payload not yet cut. -/
structure EventRecord where
  name : String
  payload : String
  deriving DecidableEq, Inhabited

/-- Why an announcement is not understood. -/
inductive EventError where
  | missingSeparator (line : String)
  | missingFields (event : String) (expected : Nat) (payload : String)
  | invalidField (event field value : String)
  deriving DecidableEq

/-- The text that says why an announcement is not understood. -/
def EventError.message : EventError → String
  | .missingSeparator line => "event record without `>>` separator: " ++ Text.quoted line
  | .missingFields event expected payload =>
    "event `" ++ event ++ "` expects " ++ toString expected ++ " field(s), got payload " ++
      Text.quoted payload
  | .invalidField event field value =>
    "event `" ++ event ++ "` has invalid " ++ field ++ ": " ++ Text.quoted value

namespace EventRecord

/-- The mark between the name and the payload. -/
def separator : String := ">>"

/-- Reads a line. The first separator counts, and blanks around the parts do not. -/
def ofLine (line : String) : Except EventError EventRecord :=
  let trimmed := Text.trim line.toList
  match Text.cutAtFirst separator.toList trimmed with
  | some (name, payload) =>
    .ok ⟨String.ofList (Text.trim name), String.ofList (Text.trim payload)⟩
  | none => .error (.missingSeparator (String.ofList trimmed))

/-- Cuts the payload at commas into at most a number of fields; the last one keeps the commas
that are left. -/
def fields (record : EventRecord) (count : Nat) : List String :=
  (Text.pieces ',' count record.payload.toList).map String.ofList

/-- Cuts a text at its last comma. -/
def cutTrailing? (text : String) : Option (String × String) :=
  (Text.cutAtLast ',' text.toList).map fun parts => (String.ofList parts.1, String.ofList parts.2)

/-- The error for a payload with too few fields. -/
def missing (record : EventRecord) (expected : Nat) : EventError :=
  .missingFields record.name expected record.payload

/-- The id that a field holds. -/
def workspaceId (record : EventRecord) (value : String) : Except EventError Int :=
  match Text.readWord64? (String.ofList (Text.trim value.toList)) with
  | some id => .ok id
  | none => .error (.invalidField record.name "workspace id" value)

/-- The two fields of a payload. -/
def pair (record : EventRecord) : Except EventError (String × String) :=
  match record.fields 2 with
  | [first, second] => .ok (first, second)
  | _ => .error (record.missing 2)

/-- The two fields of a payload that starts with the id of a workspace. -/
def numbered (record : EventRecord) : Except EventError (Int × String) := do
  let (id, rest) ← record.pair
  return (← record.workspaceId id, rest)

/-- The parts of a text around its last comma, in a payload that needs so many fields. -/
def trailing (record : EventRecord) (expected : Nat) (text : String) :
    Except EventError (String × String) :=
  match cutTrailing? text with
  | some parts => .ok parts
  | none => .error (record.missing expected)

end EventRecord

/-! ### Events -/

/-- What happened to a workspace. -/
inductive WorkspaceChange where
  | created (id : Option Int) (name : String)
  | destroyed (id : Option Int) (name : String)
  | renamed (id : Int) (name : String)
  | moved (name monitor : String)
  | activated (name : String)
  deriving DecidableEq, Inhabited

/-- What happened to a window. -/
inductive WindowChange where
  | opened (address workspace windowClass title : String)
  | closed (address : String)
  | moved (address workspace : String)
  /-- A change of the title, which some announcements do not carry. -/
  | retitled (address : String) (title : Option String)
  | urgent (address : String)
  /-- The focus went to a window, or to none. -/
  | focused (address : Option String)
  deriving DecidableEq, Inhabited

/-- What the compositor announces. -/
inductive Event where
  | workspace (change : WorkspaceChange)
  | window (change : WindowChange)
  | specialActivated (name monitor : String)
  | monitorFocused (monitor workspace : String)
  | configReloaded
  | other (name payload : String)
  deriving DecidableEq, Inhabited

namespace Event

/-- A text without the commas at its ends. -/
def trimCommas (text : String) : String :=
  let rest := text.toList.dropWhile (· = ',')
  String.ofList (rest.reverse.dropWhile (· = ',')).reverse

/-- The window that got the focus, if there is one. -/
def focusedAddress (payload : String) : Option String :=
  let address := trimCommas payload
  if address.isEmpty then none else some address

/-- Reads the payload of an announcement by its name. -/
def ofRecord (record : EventRecord) : Except EventError Event :=
  match record.name with
  | "workspace" => .ok (.workspace (.activated record.payload))
  | "workspacev2" => do
    let (_, name) ← record.pair
    return .workspace (.activated name)
  | "createworkspace" => .ok (.workspace (.created none record.payload))
  | "createworkspacev2" => do
    let (id, name) ← record.numbered
    return .workspace (.created (some id) name)
  | "destroyworkspace" => .ok (.workspace (.destroyed none record.payload))
  | "destroyworkspacev2" => do
    let (id, name) ← record.numbered
    return .workspace (.destroyed (some id) name)
  | "renameworkspace" => do
    let (id, name) ← record.numbered
    return .workspace (.renamed id name)
  | "moveworkspace" => do
    let (name, monitor) ← record.trailing 2 record.payload
    return .workspace (.moved name monitor)
  | "moveworkspacev2" => do
    let (_, rest) ← record.numbered
    let (name, monitor) ← record.trailing 3 rest
    return .workspace (.moved name monitor)
  | "activespecial" => do
    let (name, monitor) ← record.trailing 2 record.payload
    return .specialActivated name monitor
  | "focusedmon" => do
    let (monitor, target) ← record.pair
    return .monitorFocused monitor target
  | "openwindow" =>
    match record.fields 4 with
    | [address, target, windowClass, title] =>
      .ok (.window (.opened address target windowClass title))
    | _ => .error (record.missing 4)
  | "closewindow" => .ok (.window (.closed record.payload))
  | "movewindow" => do
    let (address, target) ← record.pair
    return .window (.moved address target)
  | "movewindowv2" =>
    match record.fields 3 with
    | [address, _, target] => .ok (.window (.moved address target))
    | _ => .error (record.missing 3)
  | "windowtitle" => .ok (.window (.retitled record.payload none))
  | "windowtitlev2" => do
    let (address, title) ← record.pair
    return .window (.retitled address (some title))
  | "urgent" => .ok (.window (.urgent record.payload))
  | "activewindowv2" => .ok (.window (.focused (focusedAddress record.payload)))
  | "configreloaded" => .ok .configReloaded
  | _ => .ok (.other record.name record.payload)

/-- Reads a line. -/
def ofLine (line : String) : Except EventError Event := do ofRecord (← EventRecord.ofLine line)

end Event

end Deskbar
