/-
This file searches a text for a match of a program. All ways through the program are
followed at once, character by character, in the order of preference; of two ways that
reach one instruction at one place only the preferred one goes on, so the work is bounded
by the product of the two lengths. The match found starts as early as possible, and of
those that start there it is the preferred one.
-/

import Deskbar.Pattern.Program

namespace Deskbar.Pattern

/-- The places marked so far, two for each group. -/
abbrev Marks := List (Option Nat)

/-- A way through a program: the instruction it has reached, and the places marked. -/
structure Way where
  at_ : Nat
  marks : Marks

/-- The ways that wait for a character, in order, and the marks of a match that is preferred to
all ways behind it. -/
structure Front where
  waiting : List Way := []
  matched : Option Marks := none

/-- Marks a place. -/
def Marks.set (marks : Marks) (slot place : Nat) : Marks := List.set marks slot (some place)

/-- Follows ways up to the instructions that take a character. `place` lies between the
characters `before` and `after`; instructions that have been reached are crossed off. -/
def follow (code : Code) (before after : Option Char) (place : Nat) :
    Nat → Array Bool → List Way → Front → Front
  | 0, _, _, front => front
  | _, _, [], front => front
  | steps + 1, open_, way :: others, front =>
    if open_.getD way.at_ false then
      let open_ := open_.set! way.at_ false
      match code.getD way.at_ .accept with
      | .take _ _ =>
        follow code before after place steps open_ others
          { front with waiting := way :: front.waiting }
      | .check condition next =>
        let others := if condition.holds before after then ⟨next, way.marks⟩ :: others else others
        follow code before after place steps open_ others front
      | .mark slot next =>
        follow code before after place steps open_
          (⟨next, way.marks.set slot place⟩ :: others) front
      | .fork first second =>
        follow code before after place steps open_
          (⟨first, way.marks⟩ :: ⟨second, way.marks⟩ :: others) front
      | .accept => { front with matched := some way.marks }
    else follow code before after place steps open_ others front

/-- Follows ways from one place. Every instruction is reached once and adds two ways at most,
which bounds the steps. -/
def frontAt (program : Program) (before after : Option Char) (place : Nat) (ways : List Way) :
    Front :=
  let size := program.code.size
  let front :=
    follow program.code before after place (ways.length + 2 * size + 1)
      (Array.replicate size true) ways {}
  { front with waiting := front.waiting.reverse }

/-- The ways that are left after a character. -/
def advance (code : Code) (c : Char) (ways : List Way) : List Way :=
  ways.filterMap fun way =>
    match code.getD way.at_ .accept with
    | .take set next => if set.contains c then some ⟨next, way.marks⟩ else none
    | _ => none

/-- Searches the rest of a text. A new way starts at every place until there is a match. -/
def searchFrom (program : Program) (blank : Marks) :
    Option Char → Nat → List Way → Option Marks → List Char → Option Marks
  | before, place, ways, best, text =>
    let started : Way := ⟨program.start, blank.set 0 place⟩
    let ways := if best.isSome then ways else ways ++ [started]
    let after := text.head?
    let front := frontAt program before after place ways
    let best := (front.matched.map fun marks => marks.set 1 place).or best
    match text with
    | [] => best
    | c :: rest =>
      let ways := advance program.code c front.waiting
      if ways.isEmpty && best.isSome then best
      else searchFrom program blank (some c) (place + 1) ways best rest

/-- The marks of the first match in a text: slots zero and one hold where it starts and ends,
and the next ones the same for each group. -/
def search (program : Program) (groupCount : Nat) (text : List Char) : Option Marks :=
  searchFrom program (List.replicate (2 * groupCount + 2) none) none 0 [] none text

end Deskbar.Pattern
