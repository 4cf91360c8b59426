/-
This file reads reports out of documents. A report is an object with named fields, or an
array of the same fields in their order, of which the last ones may be left out. A field
with a default may be missing; a field that is there must have a value of its kind, so
null stands only for a monitor that a rule does not name. The records of a list are read
one by one, and those that do not read are passed over.
-/

import Deskbar.Json.Basic
import Deskbar.Report.Basic
import Deskbar.Text.Numeral

namespace Deskbar

/-! ### Values of fields -/

/-- A text. -/
def Json.readText? : Json → Option String
  | .string text => some text
  | _ => none

/-- A truth value. -/
def Json.readTruth? : Json → Option Bool
  | .bool value => some value
  | _ => none

/-- A whole number that passes a test. -/
def Json.readWhole? (fits : Int → Bool) : Json → Option Int
  | .number (.whole value) => if fits value then some value else none
  | _ => none

/-- A whole number of 64 bits. -/
def Json.readWord64? : Json → Option Int := Json.readWhole? Text.fitsWord64

/-- A whole number of 32 bits. -/
def Json.readWord32? : Json → Option Int := Json.readWhole? Text.fitsWord32

/-- A number of things, of 32 bits. -/
def Json.readCount? (value : Json) : Option Nat :=
  (value.readWhole? fun count => 0 ≤ count && count < Text.bitRange 32).map Int.toNat

/-! ### Records -/

/-- The values of the fields of a record, in the order of their names. -/
def Json.fields? (names : List String) : Json → Option (List (Option Json))
  | .object members => some (names.map (Json.memberOf members))
  | .array elements =>
    if elements.length ≤ names.length then
      some (elements.map some ++ List.replicate (names.length - elements.length) none)
    else none
  | _ => none

/-- The value of a field that must be there. -/
def Json.required {Value : Type} (read? : Json → Option Value) (field : Option Json) :
    Option Value :=
  field.bind read?

/-- The value of a field that may be missing. -/
def Json.optional {Value : Type} (default : Value) (read? : Json → Option Value) :
    Option Json → Option Value
  | none => some default
  | some value => read? value

/-- Reads how a report refers to a workspace. -/
def WorkspaceReference.read? (document : Json) : Option WorkspaceReference := do
  match ← document.fields? ["id", "name"] with
  | [id, name] =>
    let id ← Json.optional 0 Json.readWord64? id
    let name ← Json.optional "" Json.readText? name
    return { id := id, name := name }
  | _ => none

/-- Reads the report of a workspace. -/
def ReportedWorkspace.read? (document : Json) : Option ReportedWorkspace := do
  match ← document.fields? ["id", "name", "monitor", "windows", "ispersistent"] with
  | [id, name, monitor, windows, persistent] =>
    let id ← Json.required Json.readWord64? id
    let name ← Json.required Json.readText? name
    let monitor ← Json.optional "" Json.readText? monitor
    let windows ← Json.optional 0 Json.readCount? windows
    let persistent ← Json.optional false Json.readTruth? persistent
    return { id := id, name := name, monitor := monitor, windows := windows,
             persistent := persistent }
  | _ => none

/-- Reads the report of a monitor. -/
def ReportedMonitor.read? (document : Json) : Option ReportedMonitor := do
  match ← document.fields?
    ["id", "name", "x", "y", "focused", "activeWorkspace", "specialWorkspace"] with
  | [id, name, x, y, focused, active, special] =>
    let id ← Json.optional 0 Json.readWord64? id
    let name ← Json.required Json.readText? name
    let x ← Json.optional 0 Json.readWord32? x
    let y ← Json.optional 0 Json.readWord32? y
    let focused ← Json.optional false Json.readTruth? focused
    let active ← Json.optional {} WorkspaceReference.read? active
    let special ← Json.optional {} WorkspaceReference.read? special
    return { id := id, name := name, x := x, y := y, focused := focused, active := active,
             special := special }
  | _ => none

/-- Reads the report of a window. -/
def ReportedWindow.read? (document : Json) : Option ReportedWindow := do
  match ← document.fields? ["address", "class", "title", "workspace", "focusHistoryID"] with
  | [address, windowClass, title, workspace, focusRank] =>
    let address ← Json.required Json.readText? address
    let windowClass ← Json.optional "" Json.readText? windowClass
    let title ← Json.optional "" Json.readText? title
    let workspace ← Json.optional {} WorkspaceReference.read? workspace
    let focusRank ← Json.optional (-1) Json.readWord64? focusRank
    return { address := address, windowClass := windowClass, title := title,
             workspace := workspace, focusRank := focusRank }
  | _ => none

/-- A text, or null for none. -/
def Json.readNullableText? : Json → Option (Option String)
  | .null => some none
  | .string text => some (some text)
  | _ => none

/-- Reads the report of a rule. -/
def ReportedRule.read? (document : Json) : Option ReportedRule := do
  match ← document.fields? ["workspaceString", "monitor", "persistent"] with
  | [workspace, monitor, persistent] =>
    let workspace ← Json.required Json.readText? workspace
    let monitor ← Json.optional none Json.readNullableText? monitor
    let persistent ← Json.optional false Json.readTruth? persistent
    return { workspace := workspace, monitor := monitor, persistent := persistent }
  | _ => none

/-- The records of a list that read; `none` for a document that is no list. -/
def Json.records? {Record : Type} (read? : Json → Option Record) : Json → Option (List Record)
  | .array elements => some (elements.filterMap read?)
  | _ => none

end Deskbar
