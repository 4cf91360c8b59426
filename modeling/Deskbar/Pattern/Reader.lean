/-
This file reads patterns. The reader goes through the text once, with a stack of the
groups that are open; within a group it collects the parts of the branch it is in and
the branches before it. Flags hold to the end of the group they are set in. A text that
is not a pattern is refused: what is refused is any look-around and back reference, an
escape or a property without a meaning, a range that runs backwards, a repetition of
nothing, a group or a set that is not closed, a name given to two groups, and what
would take a part of a character. A pattern may be nested to a certain depth only, so the
depth of every part is kept while it is read.
-/

import Deskbar.Pattern.Brackets
import Deskbar.Unicode.Alphabetic

namespace Deskbar.Pattern

/-! ### Groups -/

/-- A part of a branch. A flag setting is a part without an expression. -/
abbrev Part := Nested (Option Expression)

/-- A group that is open around the one that is being read. -/
structure OpenGroup where
  /-- The number of the group inside, if it captures. -/
  index : Option Nat
  flags : Flags
  branches : List (Nested Expression)
  parts : List Part

/-- Where a reader stands. Parts and branches are collected in reverse. -/
structure Reader where
  flags : Flags
  groups : List OpenGroup := []
  branches : List (Nested Expression) := []
  parts : List Part := []
  names : List (String × Nat) := []
  groupCount : Nat := 0

namespace Reader

/-- Adds a part to the branch. -/
def add (reader : Reader) (part : Expression) (depth : Nat) : Reader :=
  { reader with parts := ⟨some part, depth⟩ :: reader.parts }

/-- Adds a character that stands for itself. -/
def addLiteral (reader : Reader) (c : Char) : Reader :=
  reader.add (.one (reader.flags.closeCase (.single c))) 0

/-- The branch that has been read. -/
def branch (reader : Reader) : Nested Expression :=
  ⟨.ofParts (reader.parts.reverse.filterMap Nested.value), rowDepth reader.parts⟩

/-- The alternatives that have been read. -/
def body (reader : Reader) : Nested Expression :=
  let branches := reader.branches.reverse ++ [reader.branch]
  ⟨.ofBranches (branches.map Nested.value), rowDepth branches⟩

/-- Opens a group, which captures if it has a number. -/
def openGroup (reader : Reader) (index : Option Nat) (inside : Flags) : Reader :=
  { reader with
    flags := inside
    groups := ⟨index, reader.flags, reader.branches, reader.parts⟩ :: reader.groups
    branches := []
    parts := [] }

/-- Closes the innermost group. -/
def closeGroup (reader : Reader) : Option Reader :=
  match reader.groups with
  | [] => none
  | group :: groups =>
    let body := reader.body
    let expression :=
      match group.index with
      | some index => .group index body.value
      | none => body.value
    some { reader with
      flags := group.flags
      groups := groups
      branches := group.branches
      parts := ⟨some expression, body.depth + 1⟩ :: group.parts }

/-- Starts on the next alternative. -/
def alternate (reader : Reader) : Reader :=
  { reader with branches := reader.branch :: reader.branches, parts := [] }

/-- Repeats the last part. Nothing and a flag setting cannot be repeated. -/
def repeatLast (reader : Reader) (least : Nat) (most : Option Nat) (lazily : Bool) :
    Option Reader :=
  match reader.parts with
  | ⟨some part, depth⟩ :: parts =>
    let greedy := lazily == reader.flags.swapGreed
    some { reader with parts := ⟨some (part.times least most greedy), depth + 1⟩ :: parts }
  | _ => none

end Reader

/-- Whether a character may stand in the name of a group. -/
def isGroupNameChar (isFirst : Bool) (c : Char) : Bool :=
  c = '_' || Unicode.isAlphabetic c ||
    !isFirst && (c = '.' || c = '[' || c = ']' || Unicode.isNumeric c)

/-- Opens a group that captures under a name. -/
def readGroupName (reader : Reader) (text : List Char) : Option (Reader × List Char) :=
  let name := text.takeWhile (· ≠ '>')
  match text.drop name.length, name with
  | '>' :: after, first :: others =>
    let index := reader.groupCount + 1
    let known := reader.names.any fun entry => entry.1 = String.ofList name
    if isGroupNameChar true first && others.all (isGroupNameChar false) && !known then
      let reader := { reader with
        groupCount := index
        names := (String.ofList name, index) :: reader.names }
      some (reader.openGroup (some index) reader.flags, after)
    else none
  | _, _ => none

/-- Opens a group or sets flags; the opening parenthesis has been read. -/
def readGroup (reader : Reader) (text : List Char) : Option (Reader × List Char) :=
  match reader.flags.skip text with
  | '?' :: '=' :: _ => none
  | '?' :: '!' :: _ => none
  | '?' :: '<' :: '=' :: _ => none
  | '?' :: '<' :: '!' :: _ => none
  | '?' :: 'P' :: '<' :: rest => readGroupName reader rest
  | '?' :: '<' :: rest => readGroupName reader rest
  | '?' :: rest =>
    match readFlags reader.flags [] rest with
    | some (flags, ':' :: after) => some (reader.openGroup none flags, after)
    | some (flags, _ :: after) =>
      if rest.head? = some ')' then none
      else some ({ reader with flags := flags, parts := ⟨none, 0⟩ :: reader.parts }, after)
    | _ => none
  | rest =>
    let index := reader.groupCount + 1
    let reader := { reader with groupCount := index }
    some (reader.openGroup (some index) reader.flags, rest)

/-! ### Repetitions -/

/-- A number of repetitions at the front of a text, with the blanks around it. It has to fit into
a word of 32 bits. -/
def readCount (flags : Flags) (text : List Char) : Option (Nat × List Char) :=
  let (digits, rest) :=
    flags.takeSpaced Char.isDigit text.length (text.dropWhile Text.isBlank)
  (Text.readNat? digits).bind fun count =>
    if count < Text.bitRange 32 then some (count, rest.dropWhile Text.isBlank) else none

/-- Whether a question mark follows, which makes a repetition lazy. -/
def readLazy (text : List Char) : Bool × List Char :=
  match text with
  | '?' :: rest => (true, rest)
  | _ => (false, text)

/-- Repeats the last part as the braces say that have just been opened. -/
def readCounts (reader : Reader) (text : List Char) : Option (Reader × List Char) := do
  let flags := reader.flags
  let (least, rest) ← readCount flags (flags.skip text)
  let (most, rest) ←
    match rest with
    | ',' :: more =>
      match flags.skip more with
      | '}' :: after => some (none, '}' :: after)
      | more => (readCount flags more).map fun (most, after) => (some most, after)
    | _ => some (some least, rest)
  match rest with
  | '}' :: after =>
    let (lazily, after) := readLazy (flags.skip after)
    if most.all (least ≤ ·) then (reader.repeatLast least most lazily).map (·, after) else none
  | _ => none

/-! ### Patterns -/

/-- Reads one part of a pattern, whose first character is `c`. -/
def readPart (reader : Reader) (c : Char) (rest : List Char) : Option (Reader × List Char) :=
  match c with
  | '(' => readGroup reader rest
  | ')' => reader.closeGroup.map (·, rest)
  | '|' => some (reader.alternate, rest)
  | '[' =>
    let (brackets, after) := Brackets.start reader.flags rest
    (readSet reader.flags (rest.length + 1) brackets [] after).map fun (set, after) =>
      (reader.add (.one set.value) set.depth, after)
  | '?' =>
    let (lazily, after) := readLazy rest
    (reader.repeatLast 0 (some 1) lazily).map (·, after)
  | '*' =>
    let (lazily, after) := readLazy rest
    (reader.repeatLast 0 none lazily).map (·, after)
  | '+' =>
    let (lazily, after) := readLazy rest
    (reader.repeatLast 1 none lazily).map (·, after)
  | '{' => readCounts reader rest
  | '.' => if reader.flags.unicode then some (reader.add (.one reader.flags.dot) 0, rest) else none
  | '^' => some (reader.add (.boundary reader.flags.start) 0, rest)
  | '$' => some (reader.add (.boundary reader.flags.stop) 0, rest)
  | '\\' =>
    (readEscape reader.flags rest).map fun (escape, after) =>
      match escape with
      | .literal scalar => (reader.addLiteral scalar, after)
      | .set set => (reader.add (.one set) 0, after)
      | .condition boundary => (reader.add (.boundary boundary) 0, after)
  | _ => some (reader.addLiteral c, rest)

/-- Reads a pattern to its end, of which at most `fuel` parts are left. -/
def readParts : Nat → Reader → List Char → Option Reader
  | 0, _, _ => none
  | fuel + 1, reader, text =>
    match reader.flags.skip text with
    | [] => if reader.groups.isEmpty then some reader else none
    | c :: rest =>
      match readPart reader c rest with
      | some (reader, after) => readParts fuel reader after
      | none => none

/-- A pattern with the names of its groups and their number. -/
structure Parsed where
  expression : Expression
  names : List (String × Nat)
  groupCount : Nat

/-- The pattern that a text writes, read without regard to case unless it says otherwise. -/
def read? (text : String) : Option Parsed :=
  let chars := text.toList
  (readParts (chars.length + 1) { flags := { ignoreCase := true } } chars).bind fun reader =>
    let body := reader.body
    if body.depth ≤ maxDepth then some ⟨body.value, reader.names, reader.groupCount⟩ else none

end Deskbar.Pattern
