/-
This file reads sets in brackets. Within brackets stand characters, ranges, escapes that
are sets, named sets and further brackets, and between them operators that combine all
before them with all up to the next one. The reader goes through the text once, with a
stack of the brackets that are open. How deep brackets are nested is counted, since patterns
are limited in that.
-/

import Deskbar.Pattern.Escape

namespace Deskbar.Pattern

/-! ### Depth -/

/-- Something read from a pattern, and how many levels of groups, repetitions, brackets, rows and
choices are nested in it. -/
structure Nested (α : Type) where
  value : α
  depth : Nat

/-- The depth of several things side by side. Being several makes one more level. -/
def rowDepth {α : Type} (row : List (Nested α)) : Nat :=
  let deepest := row.foldl (fun depth part => max depth part.depth) 0
  if 1 < row.length then deepest + 1 else deepest

/-- How deep a pattern may be nested. -/
def maxDepth : Nat := 250

/-! ### Brackets -/

/-- How two sets within brackets are combined. -/
inductive SetOperation where
  | intersection
  | difference
  | symmetricDifference

/-- The combination of two sets. -/
def SetOperation.apply (first second : CharSet) : SetOperation → CharSet
  | .intersection => first.intersection second
  | .difference => first.difference second
  | .symmetricDifference => first.symmetricDifference second

/-- The brackets that a reader is in: the sets collected since the bracket or the last operator,
the last one first, and the operator with the set before it. -/
structure Brackets where
  complemented : Bool
  items : List (Nested CharSet) := []
  operation : Option (SetOperation × Nested CharSet) := none

/-- The set of the brackets up to here. -/
def Brackets.value (flags : Flags) (brackets : Brackets) : Nested CharSet :=
  let set := brackets.items.foldl (fun set item => set.union item.value) CharSet.empty
  let collected : Nested CharSet := ⟨flags.closeCase set, rowDepth brackets.items⟩
  match brackets.operation with
  | some (operation, first) =>
    ⟨operation.apply first.value collected.value, max first.depth collected.depth + 1⟩
  | none => collected

/-- Adds a set to those that are being collected. -/
def Brackets.add (brackets : Brackets) (set : CharSet) : Brackets :=
  { brackets with items := ⟨set, 0⟩ :: brackets.items }

/-- Starts on the second operand of an operator. -/
def Brackets.operate (flags : Flags) (brackets : Brackets) (operation : SetOperation) : Brackets :=
  { brackets with items := [], operation := some (operation, brackets.value flags) }

/-- Whether a set may be complemented. What is not in a set of ASCII is not made of whole
characters. -/
def Flags.allowsComplement (flags : Flags) (complemented : Bool) : Bool :=
  flags.unicode || !complemented

/-- The set of closed brackets. -/
def Brackets.close (flags : Flags) (brackets : Brackets) : Option (Nested CharSet) :=
  let set := brackets.value flags
  if flags.allowsComplement brackets.complemented then
    some ⟨if brackets.complemented then set.value.complement else set.value, set.depth + 1⟩
  else none

/-- Collects the dashes at the front of a text. -/
def Brackets.addDashes (flags : Flags) : Nat → Brackets → List Char → Brackets × List Char
  | steps + 1, brackets, '-' :: rest =>
    addDashes flags steps (brackets.add (.single '-')) (flags.skip rest)
  | _, brackets, text => (brackets, text)

/-- Opens brackets. Dashes that come first, and a closing bracket that does, stand for
themselves. -/
def Brackets.start (flags : Flags) (text : List Char) : Brackets × List Char :=
  let text := flags.skip text
  let (complemented, text) :=
    match text with
    | '^' :: rest => (true, flags.skip rest)
    | _ => (false, text)
  let brackets : Brackets := { complemented := complemented }
  match text with
  | ']' :: rest => (brackets.add (.single ']'), flags.skip rest)
  | _ => addDashes flags text.length brackets text

/-- A named set between colons, behind its opening bracket. What comes first is whether all but the
set is meant. -/
def readNamedSet (text : List Char) : Option (Bool × CharSet × List Char) :=
  match text with
  | ':' :: rest =>
    let (complemented, rest) :=
      match rest with
      | '^' :: after => (true, after)
      | _ => (false, rest)
    let name := rest.takeWhile (· ≠ ':')
    match rest.drop name.length, CharSet.named? (String.ofList name) with
    | ':' :: ']' :: after, some set => some (complemented, set, after)
    | _, _ => none
  | _ => none

/-- Whether something may stand within brackets. A set of ASCII has no other characters. -/
def Flags.allowsItem (flags : Flags) : Escape → Bool
  | .literal c => flags.unicode || c.toNat < 0x80
  | _ => true

/-- A character or a set at the front of a text within brackets. -/
def readSetItem (flags : Flags) (text : List Char) : Option (Escape × List Char) :=
  let item :=
    match text with
    | [] => none
    | '\\' :: rest => readEscape flags rest
    | c :: rest => some (.literal c, rest)
  item.filter fun (item, _) => flags.allowsItem item

/-- A character, a range or a set at the front of a text within brackets. -/
def readSetRange (flags : Flags) (text : List Char) : Option (CharSet × List Char) := do
  let (first, rest) ← readSetItem flags text
  let rest := flags.skip rest
  let next := flags.peek (rest.drop 1)
  if rest.head? ≠ some '-' || next = some ']' || next = some '-' then
    match first with
    | .literal c => return (.single c, rest)
    | .set set => return (set, rest)
    | .condition _ => none
  else
    let (last, after) ← readSetItem flags (flags.skip (rest.drop 1))
    match first, last with
    | .literal first, .literal last =>
      if first ≤ last then some (.range first last, after) else none
    | _, _ => none

/-- A set whose opening bracket has been read, with the brackets around it. -/
def readSet (flags : Flags) : Nat → Brackets → List Brackets → List Char →
    Option (Nested CharSet × List Char)
  | 0, _, _, _ => none
  | fuel + 1, brackets, outer, text =>
    match flags.skip text with
    | [] => none
    | '[' :: rest =>
      match readNamedSet rest with
      | some (complemented, set, after) =>
        if flags.allowsComplement complemented then
          let set := if complemented then (flags.closeCase set).complement else set
          readSet flags fuel (brackets.add set) outer after
        else none
      | none =>
        let (inner, after) := Brackets.start flags rest
        readSet flags fuel inner (brackets :: outer) after
    | ']' :: rest =>
      match brackets.close flags, outer with
      | none, _ => none
      | some set, [] => some (set, rest)
      | some set, around :: outer =>
        readSet flags fuel { around with items := set :: around.items } outer rest
    | '&' :: '&' :: rest => readSet flags fuel (brackets.operate flags .intersection) outer rest
    | '-' :: '-' :: rest => readSet flags fuel (brackets.operate flags .difference) outer rest
    | '~' :: '~' :: rest =>
      readSet flags fuel (brackets.operate flags .symmetricDifference) outer rest
    | rest =>
      match readSetRange flags rest with
      | some (set, after) => readSet flags fuel (brackets.add set) outer after
      | none => none

end Deskbar.Pattern
