/-
This file holds patterns as trees. A tree says which texts match and, through the order
of its alternatives, which of several matches is preferred: the first alternative over
the second, and one more repetition over none unless the repetition is lazy.

Trees are built in a short form. Parts in a row are one row, however they were grouped;
alternatives of one character each are one set; alternatives that begin with the same
parts share them; and what can match nothing but the empty text is repeated once at most.
None of this changes what a pattern matches.
-/

import Deskbar.CharSet
import Deskbar.Unicode.Word

namespace Deskbar.Pattern

/-- A condition on the words on either side of a place. -/
inductive WordEdge where
  | word
  | notWord
  | wordStart
  | wordEnd
  | wordStartHalf
  | wordEndHalf
  deriving DecidableEq, Inhabited

/-- Whether a condition holds between two sides, given whether there is a word on either. -/
def WordEdge.holds (before after : Bool) : WordEdge → Bool
  | .word => before != after
  | .notWord => before == after
  | .wordStart => !before && after
  | .wordEnd => before && !after
  | .wordStartHalf => !before
  | .wordEndHalf => !after

/-- A condition on the place between two characters. -/
inductive Boundary where
  | textStart
  | textEnd
  | lineStart
  | lineEnd
  /-- As `lineStart`, where a carriage return and a line feed together end one line and either
  alone does so too. -/
  | anyLineStart
  /-- As `lineEnd`, for the same line ends. -/
  | anyLineEnd
  /-- Words are made of characters of every script, or of ASCII. -/
  | words (edge : WordEdge) (unicode : Bool)
  deriving DecidableEq, Inhabited

/-- Whether a condition holds between the characters on either side of a place; at an end of
the text there is none. -/
def Boundary.holds (before after : Option Char) : Boundary → Bool
  | .textStart => before.isNone
  | .textEnd => after.isNone
  | .lineStart => before.isNone || before = some '\n'
  | .lineEnd => after.isNone || after = some '\n'
  | .anyLineStart =>
    before.isNone || before = some '\n' || before = some '\r' && after ≠ some '\n'
  | .anyLineEnd => after.isNone || after = some '\r' || after = some '\n' && before ≠ some '\r'
  | .words edge unicode =>
    let isWord := if unicode then Unicode.isWord else Unicode.isAsciiWord
    edge.holds (before.any isWord) (after.any isWord)

/-- A pattern. -/
inductive Expression where
  | empty
  /-- One character of a set. -/
  | one (set : CharSet)
  | boundary (condition : Boundary)
  | group (index : Nat) (body : Expression)
  | sequence (first second : Expression)
  | either (first second : Expression)
  /-- From `least` to `most` times, without an upper bound if there is no `most`. -/
  | repeated (body : Expression) (least : Nat) (most : Option Nat) (greedy : Bool)
  deriving DecidableEq, Inhabited

namespace Expression

/-! ### Shapes -/

/-- Whether a pattern can match the empty text as far as its shape tells. -/
def isNullable : Expression → Bool
  | .empty => true
  | .one _ => false
  | .boundary _ => true
  | .group _ body => body.isNullable
  | .sequence first second => first.isNullable && second.isNullable
  | .either first second => first.isNullable || second.isNullable
  | .repeated body least _ _ => least = 0 || body.isNullable

/-- Whether a pattern can match nothing but the empty text as far as its shape tells. -/
def isWidthless : Expression → Bool
  | .empty => true
  | .one _ => false
  | .boundary _ => true
  | .group _ body => body.isWidthless
  | .sequence first second => first.isWidthless && second.isWidthless
  | .either first second => first.isWidthless && second.isWidthless
  | .repeated body _ _ _ => body.isWidthless

/-- The set of a pattern for one character. -/
def set? : Expression → Option CharSet
  | .one set => some set
  | _ => none

/-- The only text that a pattern without choices matches. -/
def text? : Expression → Option (List Char)
  | .one set => set.single?.map ([·])
  | .sequence first second =>
    match first.text?, second.text? with
    | some before, some after => some (before ++ after)
    | _, _ => none
  | _ => none

/-- The parts that a pattern is a row of. -/
def parts : Expression → List Expression
  | .empty => []
  | .sequence first second => first.parts ++ second.parts
  | part => [part]

/-- The alternatives of a pattern, the preferred ones first. -/
def branches : Expression → List Expression
  | .either first second => first.branches ++ second.branches
  | branch => [branch]

/-! ### Building -/

/-- One pattern behind another. -/
def append : Expression → Expression → Expression
  | .empty, next => next
  | .sequence first second, next => .sequence first (second.append next)
  | part, .empty => part
  | part, next => .sequence part next

/-- The pattern of parts in a row. -/
def ofParts (parts : List Expression) : Expression := parts.foldr append .empty

/-- A pattern a number of times in a row. -/
def times (body : Expression) (least : Nat) (most : Option Nat) (greedy : Bool) : Expression :=
  let (least, most) :=
    if body.isWidthless then (min least 1, some (min (most.getD 1) 1)) else (least, most)
  if most = some 0 then .empty
  else if least = 1 ∧ most = some 1 then body
  else .repeated body least most greedy

/-- The choice between branches as they stand. -/
def choice : List Expression → Expression
  | [] => .empty
  | [branch] => branch
  | branch :: rest => .either branch (choice rest)

/-- The choice between branches, which is a set if each of them is one. -/
def ofPlainBranches (branches : List Expression) : Expression :=
  let branches := branches.flatMap Expression.branches
  match branches.mapM set? with
  | some (set :: sets) => .one (sets.foldl CharSet.union set)
  | _ => choice branches

/-- The parts of a branch, where single characters next to one another stay together. -/
def pieces (branch : Expression) : List (List Expression) :=
  branch.parts.splitBy fun part next => part.text?.isSome && next.text?.isSome

/-- What two rows have in common at their front. -/
def commonFront : List (List Expression) → List (List Expression) → List (List Expression)
  | piece :: pieces, other :: others =>
    if piece = other then piece :: commonFront pieces others else []
  | _, _ => []

/-- The pieces at the front of every branch, if each branch is a row of several. -/
def sharedFront (branches : List (List (List Expression))) : List (List Expression) :=
  match branches with
  | row :: rows =>
    if branches.all (1 < ·.length) then rows.foldl commonFront row else []
  | [] => []

/-- The choice between branches, the preferred ones first. What all of them begin with comes
before the choice. -/
def ofBranches (branches : List Expression) : Expression :=
  match ofPlainBranches branches with
  | .either first second =>
    let rows := (Expression.either first second).branches.map pieces
    let front := sharedFront rows
    if front.isEmpty then .either first second
    else
      let rests := rows.map fun row => ofParts (row.drop front.length).flatten
      ofParts (front.flatten ++ [ofPlainBranches rests])
  | expression => expression

end Expression

end Deskbar.Pattern
