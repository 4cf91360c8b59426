/-
This file reads documents. The grammar is the strict one: no comments, no commas at an
end, no control characters in texts, no surrogate escape without its partner, nothing
but blanks around the document. Arrays and objects may lie in one another at most 127
deep. Of two members of one name the later value holds.
-/

import Deskbar.Json.Basic
import Deskbar.Text.Numeral

namespace Deskbar.Json

/-- Whether a character may stand between the parts of a document. -/
def isGap (c : Char) : Bool := c = ' ' || c = '\n' || c = '\t' || c = '\r'

/-- The text from the first character on that is not a gap. -/
def skipGaps (text : List Char) : List Char := text.dropWhile isGap

/-! ### Numbers -/

/-- Takes digits into a word of 64 bits while they fit; the digits left over follow. -/
def takeDigits : Nat → List Char → Nat × List Char
  | value, [] => (value, [])
  | value, c :: rest =>
    let next := 10 * value + Text.digitValue c
    if next < Text.bitRange 64 then takeDigits next rest else (value, c :: rest)

/-- The exponent at the front of a text: its value and the rest. -/
def readExponent (text : List Char) : Option (Int × List Char) :=
  let (negative, unsigned) :=
    match text with
    | '+' :: rest => (false, rest)
    | '-' :: rest => (true, rest)
    | _ => (false, text)
  let digits := unsigned.takeWhile Char.isDigit
  if digits = [] then none
  else
    let value : Int := Text.ofDigits digits
    some (if negative then -value else value, unsigned.dropWhile Char.isDigit)

/-- Finishes a number with a fraction or an exponent, whose significand so far is followed by
`power` decimal places. -/
def finishReal (negative : Bool) (significand : Nat) (power : Int) (text : List Char) :
    Option (Number × List Char) := do
  let (exponent, rest) ←
    match text with
    | 'e' :: rest => readExponent rest
    | 'E' :: rest => readExponent rest
    | _ => some (0, text)
  let value ← Binary64.ofDecimal negative significand (power + exponent)
  return (.real value, rest)

/-- The number at the front of a text whose sign has been read. A whole number that fits into
a word stays whole; minus zero is not whole. -/
def readNumber (negative : Bool) (text : List Char) : Option (Number × List Char) :=
  let digits := text.takeWhile Char.isDigit
  let rest := text.dropWhile Char.isDigit
  if digits = [] || digits.head? = some '0' && digits.length ≠ 1 then none
  else
    let (significand, dropped) := takeDigits 0 digits
    match rest with
    | '.' :: fraction =>
      let places := fraction.takeWhile Char.isDigit
      if places = [] then none
      else
        let (longer, unread) := takeDigits significand places
        finishReal negative longer
          (dropped.length - (places.length - unread.length : Nat) : Int)
          (fraction.dropWhile Char.isDigit)
    | _ =>
      let value : Int := if negative then -significand else significand
      let isReal := rest.head? = some 'e' || rest.head? = some 'E' || dropped ≠ [] ||
        negative && (significand = 0 || value < -(Text.bitRange 63 : Int))
      if isReal then finishReal negative significand dropped.length rest
      else some (.whole value, rest)

/-! ### Texts -/

/-- Whether a code unit opens a surrogate pair. -/
def opensPair (unit : Nat) : Bool := 0xD800 ≤ unit && unit < 0xDC00

/-- Whether a code unit closes a surrogate pair. -/
def closesPair (unit : Nat) : Bool := 0xDC00 ≤ unit && unit < 0xE000

/-- The character of a surrogate pair. -/
def pairChar (first second : Nat) : Char :=
  Char.ofNat (0x10000 + (first - 0xD800) * 0x400 + (second - 0xDC00))

/-- The character that a one-letter escape stands for. -/
def escapeChar? (c : Char) : Option Char :=
  match c with
  | '"' => some '"'
  | '\\' => some '\\'
  | '/' => some '/'
  | 'b' => some '\x08'
  | 'f' => some '\x0C'
  | 'n' => some '\n'
  | 'r' => some '\r'
  | 't' => some '\t'
  | _ => none

/-- The rest of a text behind its opening quote, and what follows the closing one. `opened` is
the first half of a surrogate pair, which the very next escape has to complete. -/
def readText (opened : Option Nat) : List Char → Option (List Char × List Char)
  | '\\' :: 'u' :: a :: b :: c :: d :: rest =>
    match Text.readHex? [a, b, c, d], opened with
    | none, _ => none
    | some unit, some first =>
      if closesPair unit then
        (readText none rest).map fun (text, after) => (pairChar first unit :: text, after)
      else none
    | some unit, none =>
      if opensPair unit then readText (some unit) rest
      else if closesPair unit then none
      else (readText none rest).map fun (text, after) => (Char.ofNat unit :: text, after)
  | '\\' :: c :: rest =>
    match opened, escapeChar? c with
    | none, some escaped =>
      (readText none rest).map fun (text, after) => (escaped :: text, after)
    | _, _ => none
  | '"' :: rest => if opened.isNone then some ([], rest) else none
  | c :: rest =>
    if opened.isNone && 0x20 ≤ c.toNat && c ≠ '\\' then
      (readText none rest).map fun (text, after) => (c :: text, after)
    else none
  | [] => none

/-! ### Documents -/

mutual

/-- The document at the front of a text that has no gap there, and the rest. `depth` more
arrays and objects may open. -/
def readValue (fuel depth : Nat) (text : List Char) : Option (Json × List Char) :=
  match fuel with
  | 0 => none
  | fuel + 1 =>
    match text with
    | 'n' :: 'u' :: 'l' :: 'l' :: rest => some (.null, rest)
    | 't' :: 'r' :: 'u' :: 'e' :: rest => some (.bool true, rest)
    | 'f' :: 'a' :: 'l' :: 's' :: 'e' :: rest => some (.bool false, rest)
    | '"' :: rest =>
      (readText none rest).map fun (text, after) => (.string (String.ofList text), after)
    | '[' :: rest =>
      match depth with
      | 0 => none
      | depth + 1 =>
        match skipGaps rest with
        | ']' :: after => some (.array [], after)
        | elements =>
          (readElements fuel depth elements).map fun (list, after) => (.array list, after)
    | '{' :: rest =>
      match depth with
      | 0 => none
      | depth + 1 =>
        match skipGaps rest with
        | '}' :: after => some (.object [], after)
        | members =>
          (readMembers fuel depth [] members).map fun (list, after) => (.object list, after)
    | '-' :: rest => (readNumber true rest).map fun (value, after) => (.number value, after)
    | _ => (readNumber false text).map fun (value, after) => (.number value, after)

/-- The elements of an array up to its end. -/
def readElements (fuel depth : Nat) (text : List Char) : Option (List Json × List Char) :=
  match fuel with
  | 0 => none
  | fuel + 1 => do
    let (element, rest) ← readValue fuel depth text
    match skipGaps rest with
    | ',' :: more =>
      let (others, after) ← readElements fuel depth (skipGaps more)
      return (element :: others, after)
    | ']' :: after => return ([element], after)
    | _ => none

/-- The members of an object up to its end, added to those already read. -/
def readMembers (fuel depth : Nat) (members : List (String × Json)) (text : List Char) :
    Option (List (String × Json) × List Char) :=
  match fuel with
  | 0 => none
  | fuel + 1 =>
    match text with
    | '"' :: rest => do
      let (name, rest) ← readText none rest
      match skipGaps rest with
      | ':' :: rest =>
        let (value, rest) ← readValue fuel depth (skipGaps rest)
        let members := bind (String.ofList name) value members
        match skipGaps rest with
        | ',' :: more => readMembers fuel depth members (skipGaps more)
        | '}' :: after => return (members, after)
        | _ => none
      | _ => none
    | _ => none

end

/-- The document that a text is. -/
def read? (text : String) : Option Json := do
  let chars := text.toList
  let (document, rest) ← readValue (chars.length + 1) 127 (skipGaps chars)
  if skipGaps rest = [] then some document else none

end Deskbar.Json
