/-
This file holds the engine that runs. A pattern is read, its room is measured, and it is turned into
a program, which is run on every text that is searched. Patterns are searched for anywhere in a text
and without regard to case. A text that is no pattern, or that needs too much room, does not become
one.
-/

import Deskbar.Pattern
import Deskbar.Pattern.Reader
import Deskbar.Pattern.Room
import Deskbar.Pattern.Search

namespace Deskbar.Pattern

/-- The groups of a match in a text: where each of them lies, and the numbers of those with
names. -/
def Groups.ofMarks (text : List Char) (names : List (String × Nat)) (marks : Marks) : Groups :=
  let numbered (index : Nat) : List Char :=
    match marks[2 * index]?, marks[2 * index + 1]? with
    | some (some start), some (some stop) => (text.drop start).take (stop - start)
    | _, _ => []
  { numbered := numbered
    named := fun name =>
      match names.find? fun entry => entry.1 = name with
      | some (_, index) => numbered index
      | none => [] }

/-- A program with the names of its groups and their number. -/
structure Compiled where
  program : Program
  names : List (String × Nat)
  groupCount : Nat
  deriving DecidableEq, Inhabited

namespace Compiled

/-- The program of the pattern that a text writes. -/
def ofText? (text : String) : Option Compiled := do
  let parsed ← read? text
  if parsed.expression.fits then
    some ⟨parsed.expression.program, parsed.names, parsed.groupCount⟩
  else none

/-- The first match of a program in a text. -/
def captures? (compiled : Compiled) (text : String) : Option Captures :=
  (search compiled.program compiled.groupCount text.toList).map fun marks =>
    let groups := Groups.ofMarks text.toList compiled.names marks
    ⟨groups, groups.expand⟩

/-- The pattern that a program was made for, as it was written. -/
def pattern (compiled : Compiled) (source : String) : Pattern :=
  { source := source
    occursIn := fun text => (compiled.captures? text).isSome
    captures? := compiled.captures? }

end Compiled

/-- The engine that runs. -/
instance : Engine where
  compile? text := (Compiled.ofText? text).map fun compiled => compiled.pattern text

end Deskbar.Pattern
