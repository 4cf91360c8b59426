/-
This file holds configuration documents as trees of nodes. A node has a name, a row of
values some of which are named, and further nodes below it.
-/

namespace Deskbar

/-- A value in a configuration document. A number with a fraction or an exponent is kept as
it is written, since no option takes one. -/
inductive Node.Value where
  | null
  | bool (value : Bool)
  | whole (value : Int)
  | real (numeral : String)
  | string (text : String)
  deriving DecidableEq, Inhabited

/-- A value in the row of a node; a named one is a property, an unnamed one an argument. -/
structure Node.Entry where
  name : Option String
  value : Node.Value
  deriving DecidableEq, Inhabited

/-- A node of a configuration document. -/
structure Node where
  name : String
  entries : List Node.Entry
  children : List Node
  deriving Inhabited

namespace Node

/-- The arguments of a node, in order. -/
def arguments (node : Node) : List Value :=
  node.entries.filterMap fun entry => if entry.name.isNone then some entry.value else none

/-- The first property of a node with a given name. -/
def property? (node : Node) (name : String) : Option Value :=
  (node.entries.find? fun entry => entry.name = some name).map Entry.value

end Node

end Deskbar
