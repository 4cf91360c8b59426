/-
This file writes documents. The compact form has no blanks at all; the spread form puts
every element and every member on a line of its own, indented by its depth. In both,
every control character of a text is written as an escape, so the text of a document
holds a line feed only where the spread form ends a line.
-/

import Deskbar.Json.Basic
import Deskbar.Text.Numeral

namespace Deskbar.Json

/-- Two hexadecimal digits. -/
def twoHexDigits (value : Nat) : List Char :=
  if value < 16 then '0' :: Text.hexDigits value else Text.hexDigits value

/-- How one character of a text is written. -/
def escapedChar (c : Char) : List Char :=
  match c with
  | '"' => ['\\', '"']
  | '\\' => ['\\', '\\']
  | '\x08' => ['\\', 'b']
  | '\x0C' => ['\\', 'f']
  | '\n' => ['\\', 'n']
  | '\r' => ['\\', 'r']
  | '\t' => ['\\', 't']
  | _ => if c.toNat < 0x20 then ['\\', 'u', '0', '0'] ++ twoHexDigits c.toNat else [c]

/-- A text between quotes. -/
def textChars (text : String) : List Char := '"' :: text.toList.flatMap escapedChar ++ ['"']

/-- The text of a number. -/
def Number.text : Number → String
  | .whole value => toString value
  | .real value => value.documentText

mutual

/-- The compact form of a document. -/
def compactChars : Json → List Char
  | .null => "null".toList
  | .bool value => (if value then "true" else "false").toList
  | .number value => value.text.toList
  | .string text => textChars text
  | .array elements => '[' :: compactElements elements ++ [']']
  | .object members => '{' :: compactMembers members ++ ['}']

/-- The compact forms of elements with commas between them. -/
def compactElements : List Json → List Char
  | [] => []
  | [element] => compactChars element
  | element :: rest => compactChars element ++ ',' :: compactElements rest

/-- The compact forms of members with commas between them. -/
def compactMembers : List (String × Json) → List Char
  | [] => []
  | [(name, value)] => textChars name ++ ':' :: compactChars value
  | (name, value) :: rest =>
    textChars name ++ ':' :: compactChars value ++ ',' :: compactMembers rest

end

/-- The compact form of a document. -/
def compact (document : Json) : String := String.ofList (compactChars document)

/-- A line end and the indentation of a depth. -/
def newLine (depth : Nat) : List Char := '\n' :: List.replicate (2 * depth) ' '

mutual

/-- The spread form of a document at a depth. -/
def spreadChars (depth : Nat) : Json → List Char
  | .array [] => ['[', ']']
  | .array elements => '[' :: spreadElements (depth + 1) elements ++ newLine depth ++ [']']
  | .object [] => ['{', '}']
  | .object members => '{' :: spreadMembers (depth + 1) members ++ newLine depth ++ ['}']
  | .null => "null".toList
  | .bool value => (if value then "true" else "false").toList
  | .number value => value.text.toList
  | .string text => textChars text

/-- The spread forms of elements, each on its own line. -/
def spreadElements (depth : Nat) : List Json → List Char
  | [] => []
  | [element] => newLine depth ++ spreadChars depth element
  | element :: rest =>
    newLine depth ++ spreadChars depth element ++ ',' :: spreadElements depth rest

/-- The spread forms of members, each on its own line. -/
def spreadMembers (depth : Nat) : List (String × Json) → List Char
  | [] => []
  | [(name, value)] => newLine depth ++ textChars name ++ ':' :: ' ' :: spreadChars depth value
  | (name, value) :: rest =>
    newLine depth ++ textChars name ++ ':' :: ' ' :: spreadChars depth value ++
      ',' :: spreadMembers depth rest

end

/-- The spread form of a document. -/
def spread (document : Json) : String := String.ofList (spreadChars 0 document)

end Deskbar.Json
