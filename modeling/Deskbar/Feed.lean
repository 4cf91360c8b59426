/-
This file writes rows of buttons for a bar that reads them line by line. A row is written
only when it differs from the one written last. A row that could not be written does not
count as written, so it is tried again.
-/

import Deskbar.Button
import Deskbar.Json.Writer

namespace Deskbar

/-- What becomes of a row of buttons. -/
inductive Feed.Outcome where
  | unchanged
  | written (line : String)
  | refused
  deriving DecidableEq, Inhabited

/-- The row that was written last, if there is one. -/
structure Feed where
  last : Option (List Button) := none
  deriving DecidableEq, Inhabited

namespace Feed

/-- The line for a row of buttons, with its line end. -/
def line (buttons : List Button) : String := (Button.documentOf buttons).compact ++ "\n"

/-- Offers a row of buttons to a writer, which accepts or refuses what it is given. -/
def offer (accepts : Bool) (buttons : List Button) (feed : Feed) : Outcome × Feed :=
  if feed.last = some buttons then (.unchanged, feed)
  else if accepts then (.written (line buttons), ⟨some buttons⟩)
  else (.refused, feed)

/-- Offers rows one after the other, each to a writer that accepts or refuses it. -/
def offerAll (feed : Feed) : List (Bool × List Button) → List Outcome × Feed
  | [] => ([], feed)
  | (accepts, buttons) :: rest =>
    let (outcome, feed) := feed.offer accepts buttons
    let (outcomes, feed) := offerAll feed rest
    (outcome :: outcomes, feed)

/-- The text that an outcome adds to what the bar reads. -/
def Outcome.text : Outcome → String
  | .written line => line
  | _ => ""

end Feed

end Deskbar
