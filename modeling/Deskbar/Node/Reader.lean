/-
This file reads configuration documents. A node ends with its line, with a semicolon or
with the text; a closing brace alone does not end the last node before it. Whatever a
slash and a dash stand in front of is read and left out: between nodes a whole node,
within a node a value or the nodes below it. A backslash at the end of a line lets the
node go on in the next one.
-/

import Deskbar.Node.Token

namespace Deskbar.Node

mutual

/-- Skips what may stand between the parts of a node, and says whether there was anything. -/
def skipInNode (fuel : Nat) (text : List Char) : Bool × List Char :=
  match fuel with
  | 0 => (false, text)
  | fuel + 1 =>
    let next :=
      match text with
      | '/' :: '*' :: rest => afterBlock 0 rest
      | '/' :: '-' :: rest => afterDiscarded fuel rest
      | '\\' :: rest => afterContinuation rest
      | c :: rest => if isSpace c then some rest else none
      | [] => none
    match next with
    | some rest => (true, (skipInNode fuel rest).2)
    | none => (false, text)

/-- What follows the discarded part of a node: an entry or the nodes below it. -/
def afterDiscarded (fuel : Nat) (text : List Char) : Option (List Char) :=
  match fuel with
  | 0 => none
  | fuel + 1 =>
    let text := (skipInNode fuel text).2
    match readEntry text with
    | some (_, rest) => some rest
    | none => (readChildren fuel text).map Prod.snd

/-- The entries of a node, and what follows them and the blanks behind them. -/
def readEntries (fuel : Nat) (text : List Char) : List Entry × List Char :=
  match fuel with
  | 0 => ([], text)
  | fuel + 1 =>
    let (separated, rest) := skipInNode fuel text
    match if separated then readEntry rest else none with
    | some (entry, after) =>
      let (others, end_) := readEntries fuel after
      (entry :: others, end_)
    | none => ([], rest)

/-- The nodes between braces at the front of a text. -/
def readChildren (fuel : Nat) (text : List Char) : Option (List Node × List Char) :=
  match fuel with
  | 0 => none
  | fuel + 1 =>
    match text with
    | '{' :: rest =>
      let (nodes, after) := readNodes fuel rest
      match skipBetweenNodes fuel after with
      | '}' :: after => some (nodes, after)
      | _ => none
    | _ => none

/-- A node at the front of a text, with the blank lines before it and its end. -/
def readNode (fuel : Nat) (text : List Char) : Option (Node × List Char) :=
  match fuel with
  | 0 => none
  | fuel + 1 => do
    let text ← afterTypeName (skipBetweenNodes fuel text)
    let (name, rest) ← readName text
    let (entries, rest) := readEntries fuel rest
    let (children, rest) := (readChildren fuel rest).getD ([], rest)
    let after ← afterNodeEnd (skipInNode fuel rest).2
    return (⟨name, entries, children⟩, after)

/-- Skips what may stand between two nodes, discarded nodes among it. -/
def skipBetweenNodes (fuel : Nat) (text : List Char) : List Char :=
  match fuel with
  | 0 => text
  | fuel + 1 =>
    let next :=
      match text with
      | '/' :: '/' :: rest => some (afterLine rest)
      | '/' :: '*' :: rest => afterBlock 0 rest
      | '/' :: '-' :: rest => (readNode fuel rest).map Prod.snd
      | c :: rest => if isSpace c || isLineEnd c then some rest else none
      | [] => none
    match next with
    | some rest => skipBetweenNodes fuel rest
    | none => text

/-- The nodes at the front of a text. -/
def readNodes (fuel : Nat) (text : List Char) : List Node × List Char :=
  match fuel with
  | 0 => ([], text)
  | fuel + 1 =>
    match readNode fuel text with
    | some (node, rest) =>
      let (others, after) := readNodes fuel rest
      (node :: others, after)
    | none => ([], text)

end

/-- The nodes of a document. No reader calls more than eight others in a row before one of them
takes a character, which bounds the depth of the calls. -/
def readDocument? (text : String) : Option (List Node) :=
  let chars := text.toList
  let fuel := 8 * (chars.length + 1)
  let (nodes, rest) := readNodes fuel chars
  if skipBetweenNodes fuel rest = [] then some nodes else none

end Deskbar.Node
