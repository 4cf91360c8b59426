/-
This file holds templates: texts with references to the groups of a match. A dollar sign
and a run of ASCII letters, digits and underscores refer to a group, and so do a dollar
sign and anything between braces. What is a number refers to the group of that number,
anything else to the group of that name. Two dollar signs stand for one, and a dollar sign
that begins no reference stands for itself.
-/

import Deskbar.Text.Pieces
import Deskbar.Text.Numeral

namespace Deskbar.Pattern

/-- A piece of a template. -/
inductive TemplatePart where
  | literal (c : Char)
  | numbered (index : Nat)
  | named (name : String)
  deriving DecidableEq, Inhabited

/-- Whether a character may stand in a reference without braces. -/
def isReferenceChar (c : Char) : Bool := c.isAlphanum || c = '_'

/-- The reference that a word is. -/
def TemplatePart.ofReference (word : List Char) : TemplatePart :=
  let digits := (Text.afterLead ['+'] word).getD word
  match Text.readNat? digits with
  | some index => if index < Text.bitRange 64 then .numbered index else .named (String.ofList word)
  | none => .named (String.ofList word)

/-- The piece behind a dollar sign, and how many characters it has. -/
def readReference (text : List Char) : TemplatePart × Nat :=
  match text with
  | '$' :: _ => (.literal '$', 1)
  | '{' :: rest =>
    let word := rest.takeWhile (· ≠ '}')
    if word.length < rest.length then (.ofReference word, word.length + 2) else (.literal '$', 0)
  | _ =>
    let word := text.takeWhile isReferenceChar
    if word = [] then (.literal '$', 0) else (.ofReference word, word.length)

/-- The pieces of a template, of which the first `skipped` characters have been read. -/
def templatePartsFrom : Nat → List Char → List TemplatePart
  | _, [] => []
  | skipped + 1, _ :: rest => templatePartsFrom skipped rest
  | 0, c :: rest =>
    if c = '$' then
      let (part, length) := readReference rest
      part :: templatePartsFrom length rest
    else .literal c :: templatePartsFrom 0 rest

/-- The pieces of a template. -/
def templateParts (template : String) : List TemplatePart := templatePartsFrom 0 template.toList

end Deskbar.Pattern
