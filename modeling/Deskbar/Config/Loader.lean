/-
This file makes a configuration of a document. Each section is read from its defaults
on, one option after the other: an option reads its own node and sets its own field, so
the last node of a name decides, and names that are no option are passed over. The
patterns of names to leave out are the one option that accumulates, within one section.
-/

import Deskbar.Config.Error
import Deskbar.Node.Reader
import Deskbar.Text.Numeral
import Deskbar.Text.Utf8

namespace Deskbar

/-! ### Arguments of an option -/

/-- The text among values. -/
def Node.Value.text? : Node.Value → Option String
  | .string text => some text
  | _ => none

/-- The whole number among values. -/
def Node.Value.whole? : Node.Value → Option Int
  | .whole value => some value
  | _ => none

/-- The text that is the first argument of an option. -/
def Node.textArgument (node : Node) : Except Config.Error String :=
  match node.arguments.head?.bind Node.Value.text? with
  | some text => .ok text
  | none => .error (.wrongValue node.name .text)

/-- The truth value that is the first argument of an option; an option without arguments is
switched on. -/
def Node.truthArgument (node : Node) : Except Config.Error Bool :=
  match node.arguments.head? with
  | none => .ok true
  | some (.bool value) => .ok value
  | some _ => .error (.wrongValue node.name .truth)

/-- The number, not negative, that is the first argument of an option. -/
def Node.countArgument (node : Node) : Except Config.Error Nat :=
  match node.arguments.head?.bind Node.Value.whole? with
  | some value => if 0 ≤ value then .ok value.toNat else .error (.wrongValue node.name .count)
  | none => .error (.wrongValue node.name .count)

/-! ### Sections within the bar's section -/

/-- The icons by the state or workspace they are for. -/
def BarConfig.iconsOf (node : Node) : Except Config.Error (SortedMap String String) :=
  node.children.foldlM
    (fun icons child => do return icons.insert child.name (← child.textArgument))
    SortedMap.empty

/-- The largest count that a declaration of numbered workspaces can have. -/
def Declaration.maxCount : Nat := 100

/-- The declaration that a node is. The star declares numbered workspaces. -/
def Declaration.ofNode (node : Node) : Except Config.Error Declaration :=
  if node.name = "*" then do return .count (min (← node.countArgument) maxCount)
  else
    match node.arguments.mapM Node.Value.text? with
    | some outputs => .ok (.named node.name outputs)
    | none => .error (.wrongValue ("persistent-workspaces." ++ node.name) .outputNames)

/-- The rule that a node is, if it has a template. A priority that is no number of 32 bits is as
good as none. -/
def RewriteRule.ofNode? (node : Node) : Option RewriteRule :=
  (node.arguments.head?.bind Node.Value.text?).map fun template =>
    { pattern := node.name
      template := template
      priority := ((node.property? "priority").bind Node.Value.whole?).filter Text.fitsWord32 }

/-! ### Sections -/

/-- Sets the option of the service that a node is about. -/
def ServiceConfig.set (config : ServiceConfig) (node : Node) : Except Config.Error ServiceConfig :=
  match node.name with
  | "log-level" => do
    let word ← node.textArgument
    match LogLevel.ofName word with
    | .ok level => return { config with logLevel := level }
    | .error choice => .error (.unknownChoice choice)
  | "request-timeout-ms" => do
    let time ← node.countArgument
    return { config with requestTimeout := if time = 0 then none else some time }
  | "refresh-interval-ms" => do
    let time ← node.countArgument
    if time = 0 then .error .noRefreshInterval else return { config with refreshInterval := time }
  | _ => .ok config

/-- Sets the option of the bar that a node is about. -/
def BarConfig.set (config : BarConfig) (node : Node) : Except Config.Error BarConfig :=
  match node.name with
  | "output" => do return { config with output := some (← node.textArgument) }
  | "all-outputs" => do return { config with allOutputs := ← node.truthArgument }
  | "show-special" => do return { config with showSpecial := ← node.truthArgument }
  | "special-visible-only" => do return { config with specialVisibleOnly := ← node.truthArgument }
  | "active-only" => do return { config with activeOnly := ← node.truthArgument }
  | "persistent-only" => do return { config with persistentOnly := ← node.truthArgument }
  | "move-to-monitor" => do return { config with moveToMonitor := ← node.truthArgument }
  | "sort-by" => do
    let word ← node.textArgument
    let arrangement :=
      match Arrangement.ofName word with
      | .ok arrangement => arrangement
      | .error _ => .byCreation
    return { config with arrangement := arrangement }
  | "format" => do return { config with format := ← node.textArgument }
  | "format-window-separator" => do return { config with windowSeparator := ← node.textArgument }
  | "window-retry-budget" => do
    let budget ← node.countArgument
    return { config with retryBudget := UInt32.ofNat (min budget (Text.bitRange 32 - 1)) }
  | "ignore-workspaces" =>
    .ok { config with ignored := config.ignored ++ node.arguments.filterMap Node.Value.text? }
  | "format-icons" => do return { config with icons := ← BarConfig.iconsOf node }
  | "persistent-workspaces" => do
    return { config with declarations := ← node.children.mapM Declaration.ofNode }
  | "window-rewrite-default" => do return { config with fallback := ← node.textArgument }
  | "window-rewrite" =>
    .ok { config with rules := node.children.filterMap RewriteRule.ofNode? }
  | _ => .ok config

/-- Replaces the section that a node is. -/
def Config.set (config : Config) (node : Node) : Except Config.Error Config :=
  match node.name with
  | "global" => do return { config with service := ← node.children.foldlM ServiceConfig.set {} }
  | "workspaces" => do return { config with bar := ← node.children.foldlM BarConfig.set {} }
  | _ => .ok config

/-- The configuration of a document. -/
def Config.ofNodes (nodes : List Node) : Except Config.Error Config :=
  nodes.foldlM Config.set {}

/-- The configuration that a text writes. -/
def Config.ofText (text : String) : Except Config.Error Config :=
  match Node.readDocument? text with
  | some nodes => Config.ofNodes nodes
  | none => .error .malformed

/-- The configuration in a file, whose content is missing if the file is. -/
def Config.ofFile (path : String) (content : Option (List UInt8)) : Except Config.Error Config :=
  match content with
  | none => .error (.notFound path)
  | some bytes =>
    match Text.Utf8.decode? bytes with
    | some text => Config.ofText text
    | none => .error .notText

end Deskbar
