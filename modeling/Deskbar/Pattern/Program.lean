/-
This file turns patterns into programs for a machine that reads a text once. An
instruction takes a character, checks a condition, marks a place of a group, or forks,
where the first way is preferred to the second. A program is built from its end on:
every part is compiled for the instruction that follows it.

A loop whose body can match nothing is entered through its body, so that going round
again without having taken a character is never preferred to leaving.
-/

import Deskbar.Pattern.Expression

namespace Deskbar.Pattern

/-- One instruction; the numbers are those of instructions, but for the slot of a mark. -/
inductive Instruction where
  | take (set : CharSet) (next : Nat)
  | check (condition : Boundary) (next : Nat)
  | mark (slot : Nat) (next : Nat)
  | fork (first second : Nat)
  | accept
  deriving DecidableEq, Inhabited

/-- Instructions built so far; new ones come last. -/
abbrev Code := Array Instruction

namespace Code

/-- Adds an instruction; its number comes first in the result. -/
def add (code : Code) (instruction : Instruction) : Nat × Code :=
  (code.size, code.push instruction)

/-- Adds a choice between going through a part and passing it by. -/
def addChoice (code : Code) (greedy : Bool) (part beyond : Nat) : Nat × Code :=
  code.add (if greedy then .fork part beyond else .fork beyond part)

/-- Adds a part and a choice behind it between the part again and what comes next. The results
are the number of the choice and that of the part. -/
def addLoop (code : Code) (greedy : Bool) (next : Nat) (part : Nat → Code → Nat × Code) :
    Nat × Nat × Code :=
  let choice := code.size
  let (entry, code) := part choice (code.push .accept)
  let back := if greedy then .fork entry next else .fork next entry
  (choice, entry, code.set! choice back)

/-- Adds a part a number of times in a row. -/
def addCopies (part : Nat → Code → Nat × Code) : Nat → Nat → Code → Nat × Code
  | 0, next, code => (next, code)
  | copies + 1, next, code =>
    let (entry, code) := part next code
    addCopies part copies entry code

/-- Adds a part at most a number of times in a row; each copy can be passed by only together
with those behind it. -/
def addOptionalCopies (part : Nat → Code → Nat × Code) (greedy : Bool) (beyond : Nat) :
    Nat → Nat → Code → Nat × Code
  | 0, next, code => (next, code)
  | copies + 1, next, code =>
    let (entry, code) := part next code
    let (choice, code) := code.addChoice greedy entry beyond
    addOptionalCopies part greedy beyond copies choice code

end Code

/-- Compiles a pattern for what comes next; the number of its first instruction is the first
result. -/
def Expression.compile : Expression → Nat → Code → Nat × Code
  | .empty, next, code => (next, code)
  | .one set, next, code => code.add (.take set next)
  | .boundary condition, next, code => code.add (.check condition next)
  | .group index body, next, code =>
    let (closing, code) := code.add (.mark (2 * index + 1) next)
    let (entry, code) := body.compile closing code
    code.add (.mark (2 * index) entry)
  | .sequence first second, next, code =>
    let (middle, code) := second.compile next code
    first.compile middle code
  | .either first second, next, code =>
    let (secondEntry, code) := second.compile next code
    let (firstEntry, code) := first.compile next code
    code.add (.fork firstEntry secondEntry)
  | .repeated body least most greedy, next, code =>
    let part := fun next code => body.compile next code
    match least, most with
    | 0, none =>
      let (choice, entry, code) := code.addLoop greedy next part
      if body.isNullable then code.addChoice greedy entry next else (choice, code)
    | least + 1, none =>
      let (_, entry, code) := code.addLoop greedy next part
      Code.addCopies part least entry code
    | least, some most =>
      let (entry, code) := Code.addOptionalCopies part greedy next (most - least) next code
      Code.addCopies part least entry code

/-- A program with the number of its first instruction. -/
structure Program where
  code : Code
  start : Nat
  deriving DecidableEq, Inhabited

/-- The program of a pattern. -/
def Expression.program (expression : Expression) : Program :=
  let (start, code) := expression.compile 0 #[.accept]
  ⟨code, start⟩

end Deskbar.Pattern
