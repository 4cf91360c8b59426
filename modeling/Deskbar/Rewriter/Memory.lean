/-
This file lets a rewriter remember. An input that has been resolved before is answered
from memory, for as long as the rewriter lives.
-/

import Deskbar.Rewriter
import Deskbar.SortedMap

namespace Deskbar.Rewriter

/-- A rewriter with the outcomes for the inputs it has been asked about. -/
structure Remembering where
  rewriter : Rewriter
  memory : SortedMap String Outcome := SortedMap.empty

/-- The outcome for an input, from memory if it is there. -/
def Remembering.resolve (remembering : Remembering) (input : String) : Outcome × Remembering :=
  match remembering.memory.get? input with
  | some outcome => (outcome, remembering)
  | none =>
    let outcome := remembering.rewriter.resolve input
    (outcome, { remembering with memory := remembering.memory.insert input outcome })

/-- The outcomes for a row of inputs, asked one after the other. -/
def Remembering.resolveAll (remembering : Remembering) : List String → List Outcome × Remembering
  | [] => ([], remembering)
  | input :: rest =>
    let (outcome, remembering) := remembering.resolve input
    let (outcomes, remembering) := resolveAll remembering rest
    (outcome :: outcomes, remembering)

end Deskbar.Rewriter
