/-
This file reads escapes: a backslash with the characters behind it that say which
character, set or condition it stands for. A letter or digit without such a meaning may not
follow a backslash, and any other ASCII character then stands for itself.
-/

import Deskbar.Pattern.Flags
import Deskbar.Pattern.Property
import Deskbar.Text.Numeral

namespace Deskbar.Pattern

/-- Whether a character has a meaning of its own somewhere in patterns. -/
def isMeta (c : Char) : Bool :=
  ['\\', '.', '+', '*', '?', '(', ')', '|', '[', ']', '{', '}', '^', '$', '#', '&', '-',
    '~'].contains c

/-- Whether a backslash in front of a character stands for the character itself. -/
def isEscapable (c : Char) : Bool :=
  isMeta c || c.toNat < 0x80 && !c.isAlphanum && c ≠ '<' && c ≠ '>'

/-- What a backslash and the characters behind it stand for. -/
inductive Escape where
  | literal (c : Char)
  | set (set : CharSet)
  | condition (boundary : Boundary)

/-- The character whose code point hexadecimal digits write. -/
def codePoint? (digits : List Char) : Option Char := do
  let code ← if digits = [] then none else Text.readHex? digits
  if code.isValidChar then some (Char.ofNat code) else none

/-- The character whose code point follows, as `width` digits or between braces. -/
def readCodePoint (flags : Flags) (width : Nat) (text : List Char) : Option (Char × List Char) :=
  let isHexDigit (c : Char) := (Text.hexDigitValue? c).isSome
  match flags.skip text with
  | '{' :: rest =>
    let (digits, after) := flags.takeSpaced isHexDigit rest.length (flags.skip rest)
    match after with
    | '}' :: after => (codePoint? digits).map (·, after)
    | _ => none
  | rest =>
    let (digits, after) := flags.takeSpaced isHexDigit width rest
    if digits.length = width then (codePoint? digits).map (·, after) else none

/-- The character that follows a small `x`. Two digits write a byte, unless characters are those of
every script, and a byte that is no character is refused. -/
def readByte (flags : Flags) (text : List Char) : Option (Char × List Char) :=
  let isByte := !flags.unicode && (flags.skip text).head? ≠ some '\x7b'
  (readCodePoint flags 2 text).filter fun (c, _) => !isByte || c.toNat < 0x80

/-- The set of a property, whose name is one letter or stands between braces. -/
def readProperty (flags : Flags) (complemented : Bool) (text : List Char) :
    Option (CharSet × List Char) := do
  let (name, after) ←
    match flags.skip text with
    | '{' :: rest =>
      match flags.takeSpaced (· ≠ '}') rest.length (flags.skip rest) with
      | (name, '}' :: after) => some (name, after)
      | _ => none
    | c :: rest => if c = '\\' then none else some ([c], rest)
    | [] => none
  let (set, others) ← readPropertyName name
  let closed := flags.closeCase set
  if flags.unicode then
    return (if complemented != others then closed.complement else closed, after)
  else none

/-- The set that a letter stands for, or all but this set. Of ASCII sets there is no such rest,
since it would not be made of whole characters. -/
def letterSet (flags : Flags) (complemented : Bool) (set : CharSet) (asciiName : String) :
    Option Escape :=
  if flags.unicode then some (.set (if complemented then set.complement else set))
  else if complemented then none
  else (CharSet.named? asciiName).map .set

/-- The kind of word boundary that may follow in braces; `none` when what follows is not one
and has no other meaning. -/
def readWordBoundary (flags : Flags) (text : List Char) : Option (WordEdge × List Char) :=
  let isNameChar (c : Char) := c.isAlpha || c = '-'
  match text with
  | '{' :: rest =>
    let rest := flags.skip rest
    if rest = [] then none
    else
      let (name, after) := flags.takeSpaced isNameChar rest.length rest
      match name, String.ofList name, after with
      | [], _, _ => some (.word, text)
      | _, "start", '}' :: after => some (.wordStart, after)
      | _, "end", '}' :: after => some (.wordEnd, after)
      | _, "start-half", '}' :: after => some (.wordStartHalf, after)
      | _, "end-half", '}' :: after => some (.wordEndHalf, after)
      | _, _, _ => none
  | _ => some (.word, text)

/-- The meaning of an escape whose backslash has been read. -/
def readEscape (flags : Flags) (text : List Char) : Option (Escape × List Char) :=
  match text with
  | [] => none
  | c :: rest =>
    match c with
    | 'x' => (readByte flags rest).map fun (scalar, after) => (.literal scalar, after)
    | 'u' => (readCodePoint flags 4 rest).map fun (scalar, after) => (.literal scalar, after)
    | 'U' => (readCodePoint flags 8 rest).map fun (scalar, after) => (.literal scalar, after)
    | 'd' => (letterSet flags false Unicode.digitRanges "digit").map (·, rest)
    | 'D' => (letterSet flags true Unicode.digitRanges "digit").map (·, rest)
    | 's' => (letterSet flags false Text.blankRanges "space").map (·, rest)
    | 'S' => (letterSet flags true Text.blankRanges "space").map (·, rest)
    | 'w' => (letterSet flags false Unicode.wordRanges "word").map (·, rest)
    | 'W' => (letterSet flags true Unicode.wordRanges "word").map (·, rest)
    | 'p' => (readProperty flags false rest).map fun (set, after) => (.set set, after)
    | 'P' => (readProperty flags true rest).map fun (set, after) => (.set set, after)
    | 'a' => some (.literal '\x07', rest)
    | 'f' => some (.literal '\x0C', rest)
    | 't' => some (.literal '\t', rest)
    | 'n' => some (.literal '\n', rest)
    | 'r' => some (.literal '\r', rest)
    | 'v' => some (.literal '\x0B', rest)
    | 'A' => some (.condition .textStart, rest)
    | 'z' => some (.condition .textEnd, rest)
    | 'b' =>
      (readWordBoundary flags rest).map fun (edge, after) =>
        (.condition (.words edge flags.unicode), after)
    | 'B' => some (.condition (.words .notWord flags.unicode), rest)
    | '<' => some (.condition (.words .wordStart flags.unicode), rest)
    | '>' => some (.condition (.words .wordEnd flags.unicode), rest)
    | _ => if isEscapable c then some (.literal c, rest) else none

end Deskbar.Pattern
