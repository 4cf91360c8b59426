/-
This file says how much room a pattern takes, and how much it may take. Room is counted
in bytes for two machines that read UTF-8 byte by byte, one forward and one backward: so
much for each state, and something more for each way out of a state that has several.
Forward a set of characters is a tree whose equal branchings are shared, backward it is a
choice between chains that share their ends. Neither machine is built.
-/

import Deskbar.Pattern.Encoding
import Deskbar.Pattern.Expression

namespace Deskbar.Pattern

/-! ### Prices -/

/-- The direction in which a machine reads. -/
inductive Direction where
  | forward
  | backward
  deriving DecidableEq

/-- The room of a state. -/
def stateRoom : Nat := 32

/-- The room of a way out of a state that is taken on a range of bytes. -/
def rangeRoom : Nat := 8

/-- The room of a way out of a state that is taken without a byte. -/
def wayRoom : Nat := 4

/-- The room of a state with two ways out. -/
def forkRoom : Nat := stateRoom + 2 * wayRoom

/-- The room that a machine may take. -/
def maxRoom : Nat := 10 * 1024 * 1024

/-- The sum of some amounts of room. -/
def total (amounts : List Nat) : Nat := amounts.foldl (· + ·) 0

/-! ### Sets and texts -/

/-- The number of ways out of a branching. -/
def waysOut (rows : List ByteRow) : Nat := (continuations rows).length

/-- The room of a set with characters outside ASCII. -/
def wideSetRoom (direction : Direction) (set : CharSet) : Nat :=
  let branchings := encodingBranchings set
  match direction with
  | .forward =>
    stateRoom +
      total (branchings.eraseDups.map fun rows => stateRoom + rangeRoom * waysOut rows)
  | .backward =>
    2 * stateRoom + wayRoom * (encodingRows set).length +
      stateRoom * total (branchings.map waysOut)

/-- The room of a set. A single character is a chain of its bytes. -/
def setRoom (direction : Direction) (set : CharSet) : Nat :=
  match set.single? with
  | some c => stateRoom * c.utf8Size
  | none =>
    if set.ranges.all (·.2 < 0x80) then 2 * stateRoom + rangeRoom * set.ranges.length
    else wideSetRoom direction set

/-- The texts between those that are empty. -/
def stretches : List (List UInt8) → List (List (List UInt8))
  | [] => [[]]
  | text :: texts =>
    match stretches texts with
    | stretch :: others =>
      if text.isEmpty then [] :: stretch :: others else (text :: stretch) :: others
    | [] => [[]]

/-- What is left of the texts that begin with each byte. -/
def restsByByte (texts : List (List UInt8)) : List (List (List UInt8)) :=
  (texts.filterMap List.head?).eraseDups.map fun byte =>
    texts.filterMap fun text => if text.head? = some byte then some text.tail else none

/-- The room of the tree of some texts, down to a depth. A text that ends at a branching divides
the texts before it from those behind it; of several that end there before any goes on, one
counts. -/
def treeRoom : Nat → List (List UInt8) → Nat
  | 0, _ => 0
  | depth + 1, texts =>
    if texts.all List.isEmpty then 0
    else
      let counted := if texts.head? = some [] then [] :: texts.dropWhile List.isEmpty else texts
      let stretches := stretches counted
      let open_ := stretches.filter (!·.isEmpty)
      let room := open_.map fun stretch =>
        let rests := restsByByte stretch
        let ways := if rests.length = 1 then 0 else rangeRoom * rests.length
        stateRoom + ways + total (rests.map (treeRoom depth))
      stateRoom + wayRoom * (stretches.length - 1 + open_.length) + total room

/-- The room of a choice between texts, which share their beginnings. -/
def textsRoom (direction : Direction) (texts : List (List Char)) : Nat :=
  let encodings := texts.map (·.flatMap String.utf8EncodeChar)
  let encodings := if direction = .backward then encodings.map List.reverse else encodings
  stateRoom + treeRoom (encodings.foldl (fun depth text => max depth text.length) 0) encodings

/-! ### Patterns -/

/-- The room of the way to a pattern, if it is a branch of a choice. -/
def wayToBranch (isBranch : Bool) : Nat := if isBranch then wayRoom else 0

/-- The room of a pattern that is repeated and takes `body` once. -/
def repeatedRoom (isNullable : Bool) (body : Nat) : Nat → Option Nat → Nat
  | 0, none => if isNullable then body + 2 * forkRoom + stateRoom else body + forkRoom
  | least + 1, none => (least + 1) * body + forkRoom
  | 0, some 1 => body + forkRoom + stateRoom
  | least, some most =>
    if least = most then least * body
    else (if least = 0 then stateRoom else least * body) + stateRoom +
      (most - least) * (forkRoom + body)

namespace Expression

/-- The room of a pattern, with the ways to it if it is one of the branches of a choice. The
branches of a choice that is a branch itself are branches of the choice around it. Marks of
groups are made forward only. -/
def innerRoom (direction : Direction) (isBranch : Bool) : Expression → Nat
  | .either first second =>
    let branches := first.innerRoom direction true + second.innerRoom direction true
    if isBranch then branches
    else
      match (Expression.either first second).branches.mapM text? with
      | some texts => textsRoom direction texts
      | none => 2 * stateRoom + branches
  | .empty => wayToBranch isBranch + stateRoom
  | .one set => wayToBranch isBranch + setRoom direction set
  | .boundary _ => wayToBranch isBranch + stateRoom
  | .group _ body =>
    let marks := if direction = .forward then 2 * stateRoom else 0
    wayToBranch isBranch + marks + body.innerRoom direction false
  | .sequence first second =>
    wayToBranch isBranch + first.innerRoom direction false + second.innerRoom direction false
  | .repeated body least most _ =>
    wayToBranch isBranch + repeatedRoom body.isNullable (body.innerRoom direction false) least most

/-- Whether a match can only begin at the start of the text, as far as the shape tells. -/
def isHeldAtStart : Expression → Bool
  | .boundary condition => condition = .textStart
  | .group _ body => body.isHeldAtStart
  | .sequence first second =>
    first.isHeldAtStart || first.isWidthless && second.isHeldAtStart
  | .either first second => first.isHeldAtStart && second.isHeldAtStart
  | .repeated body least _ _ => 0 < least && body.isHeldAtStart
  | _ => false

/-- Whether a match can only end at the end of the text, as far as the shape tells. -/
def isHeldAtEnd : Expression → Bool
  | .boundary condition => condition = .textEnd
  | .group _ body => body.isHeldAtEnd
  | .sequence first second =>
    second.isHeldAtEnd || second.isWidthless && first.isHeldAtEnd
  | .either first second => first.isHeldAtEnd && second.isHeldAtEnd
  | .repeated body least _ _ => 0 < least && body.isHeldAtEnd
  | _ => false

/-- The room of the way into a pattern: a loop over any byte, unless no match begins later. -/
def entryRoom (isHeld : Bool) : Nat :=
  if isHeld then stateRoom else 2 * stateRoom + rangeRoom + forkRoom

/-- The room of the machine of a pattern. -/
def room (expression : Expression) (direction : Direction) : Nat :=
  let body := stateRoom + expression.innerRoom direction false
  match direction with
  | .forward => entryRoom expression.isHeldAtStart + 2 * stateRoom + body
  | .backward => entryRoom expression.isHeldAtEnd + body

/-- Whether both machines of a pattern stay within the room they may take. -/
def fits (expression : Expression) : Bool :=
  expression.room .forward ≤ maxRoom && expression.room .backward ≤ maxRoom

end Expression

end Deskbar.Pattern
