/-
This file holds a bar that is set up: its configuration with the patterns made ready, and
what follows from it about names. It says which workspaces the bar takes in at all, and
which ones the user wants to stay.
-/

import Deskbar.Naming
import Deskbar.Rewriter

namespace Deskbar

/-- A configuration with its patterns made ready. -/
structure Bar where
  config : BarConfig
  rewriter : Rewriter
  ignored : List Pattern
  /-- The raw names of the workspaces that stay, each shown name once. -/
  persistent : List String

namespace Bar

/-- Whether one of the patterns matches a name. -/
def ignores (ignored : List Pattern) (name : String) : Bool :=
  ignored.any fun pattern => pattern.occursIn name

/-- Adds a raw name unless its shown name is there already or is to be left out. -/
def addName (ignored : List Pattern) (names : List String) (raw : String) : List String :=
  let shown := shownName raw
  if (names.map shownName).contains shown || ignores ignored shown then names else names ++ [raw]

/-- The raw names that declarations ask for on an output, in their order. -/
def declaredNames (ignored : List Pattern) (output : Option String)
    (declarations : List Declaration) : List String :=
  (declarations.flatMap (Declaration.namesFor output)).foldl (addName ignored) []

/-- Sets a bar up. -/
def ofConfig [Pattern.Engine] (config : BarConfig) : Bar :=
  let ignored := config.ignored.filterMap Pattern.Engine.compile?
  let output := if config.allOutputs then none else config.output
  { config := config
    rewriter := Rewriter.ofConfig config
    ignored := ignored
    persistent := declaredNames ignored output config.declarations }

/-- Whether the bar is for the workspaces of every output. -/
def spansAll (bar : Bar) : Bool := bar.config.allOutputs || bar.config.output.isNone

/-- Whether a name is to be left out. -/
def leavesOut (bar : Bar) (name : String) : Bool := ignores bar.ignored name

/-- Whether the bar takes in a workspace with a shown name, on an output. -/
def takes (bar : Bar) (name output : String) (special : Bool) : Bool :=
  if special && !bar.config.showSpecial then false
  else if !bar.spansAll && bar.config.output ≠ some output then false
  else !bar.leavesOut name

/-- Whether a workspace with a shown name is to stay. -/
def declares (bar : Bar) (name : String) : Bool :=
  bar.persistent.any fun raw => shownName raw = name

end Bar

end Deskbar
