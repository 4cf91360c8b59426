/-
This file holds what a user can configure: how the program as a whole behaves, and what
the bar shows, under which names, in which order and with which texts. Every option has
a default, so the empty document is a configuration too.
-/

import Deskbar.SortedMap
import Deskbar.Text.Blank

namespace Deskbar

/-! ### Choices -/

/-- How much is written to the log. -/
inductive LogLevel where
  | trace
  | debug
  | info
  | warn
  | error
  deriving DecidableEq, Inhabited

/-- How the bar orders its workspaces. Every order falls back on the order of creation. -/
inductive Arrangement where
  /-- By the id that the compositor assigned. -/
  | byId
  /-- By name, as numbers when every name is one. -/
  | byName
  /-- By the number that the name is; other names come last. -/
  | byNumber
  /-- By id, with the special workspaces in the middle. -/
  | specialCentered
  /-- By the place of the monitor. -/
  | byPosition
  /-- By creation. -/
  | byCreation
  deriving DecidableEq, Inhabited

/-- A word that names none of the choices there are. -/
inductive UnknownChoice where
  | logLevel (word : String)
  | arrangement (word : String)
  deriving DecidableEq

/-- The text that tells the user about the word. -/
def UnknownChoice.message : UnknownChoice → String
  | .logLevel word => "Unknown log level: " ++ word
  | .arrangement word => "Unknown sort method: " ++ word

namespace LogLevel

/-- The word for a level. -/
def name : LogLevel → String
  | .trace => "trace"
  | .debug => "debug"
  | .info => "info"
  | .warn => "warn"
  | .error => "error"

/-- The level that a word names in whatever letter case. -/
def ofName (word : String) : Except UnknownChoice LogLevel :=
  match String.ofList (word.toList.map Char.toLower) with
  | "trace" => .ok .trace
  | "debug" => .ok .debug
  | "info" => .ok .info
  | "warn" => .ok .warn
  | "warning" => .ok .warn
  | "error" => .ok .error
  | _ => .error (.logLevel word)

end LogLevel

namespace Arrangement

/-- The name under which an arrangement is shown. -/
def name : Arrangement → String
  | .byId => "Id"
  | .byName => "Name"
  | .byNumber => "Number"
  | .specialCentered => "SpecialCentered"
  | .byPosition => "Coordinates"
  | .byCreation => "Default"

/-- The capital of a letter whose capital is an ASCII letter; the dotless i and the long s are
two such letters. -/
def capital (c : Char) : Char :=
  if c = 'ı' then 'I' else if c = 'ſ' then 'S' else c.toUpper

/-- The order that a word names in whatever letter case, with blanks around it, and with a dash
or an underscore between its parts. -/
def ofName (word : String) : Except UnknownChoice Arrangement :=
  let plain := (Text.trim word.toList).map fun c => if c = '_' then '-' else capital c
  match String.ofList plain with
  | "ID" => .ok .byId
  | "NAME" => .ok .byName
  | "NUMBER" => .ok .byNumber
  | "SPECIAL-CENTERED" => .ok .specialCentered
  | "COORDINATES" => .ok .byPosition
  | "DEFAULT" => .ok .byCreation
  | _ => .error (.arrangement word)

end Arrangement

/-! ### Persistent workspaces -/

/-- A declaration of workspaces that stay on the bar while the compositor has none. -/
inductive Declaration where
  /-- One workspace; a list of outputs that is not empty restricts it to them. -/
  | named (name : String) (outputs : List String)
  /-- The workspaces from one up to a count, on every output. -/
  | count (total : Nat)
  deriving DecidableEq

/-- The names that a declaration asks for on an output, or on all of them. -/
def Declaration.namesFor (output : Option String) : Declaration → List String
  | .named name outputs =>
    match output with
    | some output => if outputs.isEmpty || outputs.contains output then [name] else []
    | none => [name]
  | .count total => (List.range total).map fun index => toString (index + 1)

/-! ### Configurations -/

/-- A rule that turns a window into the text shown for it. A rule without a priority gets one
from its pattern. -/
structure RewriteRule where
  pattern : String
  template : String
  priority : Option Int
  deriving DecidableEq

/-- How the program as a whole behaves. Times are in milliseconds; without a timeout a query
waits for ever. -/
structure ServiceConfig where
  logLevel : LogLevel := .info
  requestTimeout : Option Nat := none
  refreshInterval : Nat := 1000
  deriving DecidableEq

/-- What the bar shows. A bar without an output is for all of them. -/
structure BarConfig where
  output : Option String := none
  allOutputs : Bool := false
  showSpecial : Bool := false
  specialVisibleOnly : Bool := false
  activeOnly : Bool := false
  persistentOnly : Bool := false
  moveToMonitor : Bool := false
  arrangement : Arrangement := .byCreation
  format : String := "\x7bname\x7d"
  windowSeparator : String := " "
  /-- How many ticks a window may wait for its workspace. -/
  retryBudget : UInt32 := 5
  /-- Patterns of the names that are left out. -/
  ignored : List String := []
  icons : SortedMap String String := SortedMap.empty
  declarations : List Declaration := []
  /-- The text for a window that no rule is about. -/
  fallback : String := "?"
  rules : List RewriteRule := []
  deriving DecidableEq

/-- A whole configuration. -/
structure Config where
  service : ServiceConfig := {}
  bar : BarConfig := {}
  deriving DecidableEq

end Deskbar
