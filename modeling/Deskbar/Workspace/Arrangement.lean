/-
This file puts workspaces in order. Each arrangement compares by its own measure first and
by the order of creation after that, so workspaces with different keys never tie and the
order in which they come in does not matter.
-/

import Deskbar.Config.Basic
import Deskbar.Sorting
import Deskbar.Text.Numeral
import Deskbar.Workspace

namespace Deskbar

namespace Workspace

/-- Compares by id; workspaces without one come last. -/
def compareId : Workspace → Workspace → Ordering :=
  compareLex (compareOn fun workspace => workspace.id.isNone)
    (compareOn fun workspace => workspace.id.getD 0)

/-- The number that the name of a workspace is. -/
def number? (workspace : Workspace) : Option Int := Text.readWord64? workspace.name

/-- Compares by the numbers that the names are; other names come last. -/
def compareNumber : Workspace → Workspace → Ordering :=
  compareLex (compareOn fun workspace => workspace.number?.isNone)
    (compareOn fun workspace => workspace.number?.getD 0)

/-- The place of the monitor that a workspace is on. -/
def place? (monitors : List ReportedMonitor) (workspace : Workspace) : Option (Int × Int) :=
  (monitors.find? fun monitor => monitor.name = workspace.output).map
    fun monitor => (monitor.x, monitor.y)

/-- Compares by the place of the monitor, from left to right and then from top to bottom;
workspaces on monitors that are not known come last. -/
def comparePlace (monitors : List ReportedMonitor) : Workspace → Workspace → Ordering :=
  compareLex (compareOn fun workspace => (workspace.place? monitors).isNone)
    (compareLex (compareOn fun workspace => ((workspace.place? monitors).getD (0, 0)).1)
      (compareOn fun workspace => ((workspace.place? monitors).getD (0, 0)).2))

/-- Sorts by a measure and then by the order of creation. -/
def sortThenByKey (order : Workspace → Workspace → Ordering) (list : List Workspace) :
    List Workspace :=
  sortBy (compareLex order (compareOn key)) list

/-- The workspaces by id, with the special ones in the middle. -/
def centered (list : List Workspace) : List Workspace :=
  let regular := sortThenByKey compareId (list.filter fun workspace => !workspace.flags.special)
  let special := sortBy (compareOn key) (list.filter fun workspace => workspace.flags.special)
  let middle := regular.length / 2
  regular.take middle ++ special ++ regular.drop middle

end Workspace

/-- The workspaces in the order that an arrangement asks for. -/
def Arrangement.sort (arrangement : Arrangement) (monitors : List ReportedMonitor)
    (list : List Workspace) : List Workspace :=
  match arrangement with
  | .byId => Workspace.sortThenByKey Workspace.compareId list
  | .byName =>
    if list.all fun workspace => workspace.number?.isSome then
      Workspace.sortThenByKey Workspace.compareNumber list
    else Workspace.sortThenByKey (compareOn Workspace.name) list
  | .byNumber => Workspace.sortThenByKey Workspace.compareNumber list
  | .specialCentered => Workspace.centered list
  | .byPosition => Workspace.sortThenByKey (Workspace.comparePlace monitors) list
  | .byCreation => sortBy (compareOn Workspace.key) list

end Deskbar
