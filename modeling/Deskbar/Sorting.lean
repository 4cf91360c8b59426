/-
This file sorts lists by a comparison. Elements that compare as equal keep the order they
came in.
-/

namespace Deskbar

/-- Puts an element in front of the first one that it does not come after. -/
def insertSorted {Element : Type} (order : Element → Element → Ordering) (element : Element) :
    List Element → List Element
  | [] => [element]
  | first :: rest =>
    if order element first = .gt then first :: insertSorted order element rest
    else element :: first :: rest

/-- The elements of a list in ascending order. -/
def sortBy {Element : Type} (order : Element → Element → Ordering) (list : List Element) :
    List Element :=
  list.foldr (insertSorted order) []

end Deskbar
