/-
This file reads the smallest parts of configuration documents: blanks, line ends and
comments, names, and values. Every reader takes a part from the front of a text and
returns it with what follows it, or refuses.
-/

import Deskbar.Node.Basic
import Deskbar.Text.Pieces
import Deskbar.Text.Numeral
import Deskbar.Unicode.Number

namespace Deskbar.Node

/-! ### Blanks and comments -/

/-- Whether a character separates the parts of one line. -/
def isSpace (c : Char) : Bool :=
  let code := c.toNat
  code = 0x09 || code = 0x20 || code = 0xA0 || code = 0x1680 ||
    (0x2000 ≤ code && code ≤ 0x200A) || code = 0x202F || code = 0x205F || code = 0x3000 ||
    code = 0xFEFF

/-- Whether a character ends a line. -/
def isLineEnd (c : Char) : Bool :=
  let code := c.toNat
  code = 0x0A || code = 0x0C || code = 0x0D || code = 0x85 || code = 0x2028 || code = 0x2029

/-- What follows the line end at the front of a text. -/
def afterLineEnd : List Char → Option (List Char)
  | '\r' :: '\n' :: rest => some rest
  | c :: rest => if isLineEnd c then some rest else none
  | [] => none

/-- What follows the line that a text starts in the middle of. -/
def afterLine : List Char → List Char
  | [] => []
  | '\r' :: '\n' :: rest => rest
  | c :: rest => if isLineEnd c then rest else afterLine rest

/-- What follows a block comment of which `depth + 1` levels are open. -/
def afterBlock : Nat → List Char → Option (List Char)
  | depth, '*' :: '/' :: rest =>
    match depth with
    | 0 => some rest
    | depth + 1 => afterBlock depth rest
  | depth, '/' :: '*' :: rest => afterBlock (depth + 1) rest
  | depth, _ :: rest => afterBlock depth rest
  | _, [] => none

/-- Skips at most `steps` spaces and block comments. A comment that never ends stays. -/
def skipSpaces : Nat → List Char → List Char
  | steps + 1, '/' :: '*' :: rest =>
    match afterBlock 0 rest with
    | some after => skipSpaces steps after
    | none => '/' :: '*' :: rest
  | steps + 1, c :: rest => if isSpace c then skipSpaces steps rest else c :: rest
  | _, text => text

/-- What follows a line continuation whose backslash has been read: spaces, then a comment to
the end of the line or the end of the line itself. -/
def afterContinuation (text : List Char) : Option (List Char) :=
  match skipSpaces text.length text with
  | '/' :: '/' :: rest => some (afterLine rest)
  | rest => afterLineEnd rest

/-- What follows the end of a node: a line end, a semicolon, a comment to the end of the line,
or the end of the text. -/
def afterNodeEnd : List Char → Option (List Char)
  | [] => some []
  | ';' :: rest => some rest
  | '/' :: '/' :: rest => some (afterLine rest)
  | text => afterLineEnd text

/-! ### Texts -/

/-- Where a reader stands inside a quoted text. -/
inductive QuoteState where
  | plain
  | escaped
  | opening
  | digits (read : List Char)

/-- The character that a one-letter escape stands for. -/
def escapeChar? (c : Char) : Option Char :=
  match c with
  | 'n' => some '\n'
  | 'r' => some '\r'
  | 't' => some '\t'
  | '\\' => some '\\'
  | '/' => some '/'
  | '"' => some '"'
  | 'b' => some '\x08'
  | 'f' => some '\x0C'
  | _ => none

/-- The character with the code point that one to six hexadecimal digits write. -/
def scalarChar? (digits : List Char) : Option Char := do
  let code ← if digits = [] ∨ 6 < digits.length then none else Text.readHex? digits
  if code.isValidChar then some (Char.ofNat code) else none

/-- The rest of a quoted text and what follows its closing quote. -/
def readQuoted : QuoteState → List Char → Option (List Char × List Char)
  | _, [] => none
  | .plain, '"' :: rest => some ([], rest)
  | .plain, '\\' :: rest => readQuoted .escaped rest
  | .plain, c :: rest => (readQuoted .plain rest).map fun (text, after) => (c :: text, after)
  | .escaped, 'u' :: rest => readQuoted .opening rest
  | .escaped, c :: rest =>
    match escapeChar? c with
    | some escaped =>
      (readQuoted .plain rest).map fun (text, after) => (escaped :: text, after)
    | none => none
  | .opening, c :: rest => if c = '{' then readQuoted (.digits []) rest else none
  | .digits read, c :: rest =>
    if c = '}' then
      match scalarChar? read.reverse with
      | some scalar =>
        (readQuoted .plain rest).map fun (text, after) => (scalar :: text, after)
      | none => none
    else readQuoted (.digits (c :: read)) rest

/-- The raw text behind an `r`: hashes, a quote, and everything up to a quote with as many
hashes. -/
def readRaw (text : List Char) : Option (List Char × List Char) :=
  let hashes := text.takeWhile (· = '#')
  match text.drop hashes.length with
  | '"' :: rest => Text.cutAtFirst ('"' :: hashes) rest
  | _ => none

/-- A text between quotes or a raw text at the front of a text. -/
def readString (text : List Char) : Option (String × List Char) :=
  match text with
  | '"' :: rest => (readQuoted .plain rest).map fun (text, after) => (String.ofList text, after)
  | 'r' :: rest => (readRaw rest).map fun (text, after) => (String.ofList text, after)
  | _ => none

/-! ### Names -/

/-- The visible characters that have a meaning of their own, so no bare name holds them. -/
def punctuation : List Char :=
  ['\\', '/', '(', ')', '{', '}', '<', '>', ';', '[', ']', '=', ',', '"']

/-- Whether a character may stand in a bare name. -/
def isNameChar (c : Char) : Bool :=
  0x20 ≤ c.toNat && !isSpace c && !isLineEnd c && !punctuation.contains c

/-- A bare name at the front of a text. It starts with no digit and is no keyword. -/
def readBareName (text : List Char) : Option (String × List Char) :=
  match text with
  | [] => none
  | c :: _ =>
    let name := String.ofList (text.takeWhile isNameChar)
    if !isNameChar c || Unicode.isNumeric c || ["true", "false", "null"].contains name then none
    else some (name, text.dropWhile isNameChar)

/-- A name at the front of a text: quoted, raw or bare. -/
def readName (text : List Char) : Option (String × List Char) :=
  (readString text).or (readBareName text)

/-- Skips a name in parentheses at the front of a text; `none` when the parenthesis has no such
content. -/
def afterTypeName : List Char → Option (List Char)
  | '(' :: rest =>
    match readName rest with
    | some (_, ')' :: after) => some after
    | _ => none
  | text => some text

/-! ### Numbers -/

/-- Digits of a base at the front of a text, which may have underscores behind the first one. -/
def readDigits (isDigit : Char → Bool) (text : List Char) : Option (List Char × List Char) :=
  match text with
  | c :: _ =>
    if isDigit c then
      some ((text.takeWhile fun d => isDigit d || d = '_').filter (· ≠ '_'),
        text.dropWhile fun d => isDigit d || d = '_')
    else none
  | [] => none

/-- Decimal digits at the front of a text. Their number has to fit into a signed word of 64
bits. -/
def readDecimal (text : List Char) : Option (List Char × List Char) :=
  (readDigits Char.isDigit text).filter fun (digits, _) =>
    Text.ofDigits digits < Text.bitRange 63

/-- The digits of a whole number in the base that a leading zero and a letter announce. -/
def readPrefixed (text : List Char) : Option (Nat × List Char) :=
  let inBase (base : Nat) (isDigit : Char → Bool) (rest : List Char) :=
    (readDigits isDigit rest).bind fun (digits, after) =>
      let value := digits.foldl (fun value c => base * value + (Text.hexDigitValue? c).getD 0) 0
      if value < Text.bitRange 63 then some (value, after) else none
  match text with
  | '0' :: 'x' :: rest | '0' :: 'X' :: rest =>
    inBase 16 (fun c => (Text.hexDigitValue? c).isSome) rest
  | '0' :: 'o' :: rest | '0' :: 'O' :: rest => inBase 8 (fun c => '0' ≤ c && c ≤ '7') rest
  | '0' :: 'b' :: rest | '0' :: 'B' :: rest => inBase 2 (fun c => c = '0' || c = '1') rest
  | _ => none

/-- The fraction and the exponent at the front of a text: their characters and the rest. Either
may be missing; one that has begun must have digits. -/
def readFraction (text : List Char) : Option (List Char × List Char) := do
  let (fraction, rest) ←
    match text with
    | '.' :: rest =>
      (readDecimal rest).map fun (digits, after) => ('.' :: digits, after)
    | _ => some ([], text)
  let isExponent := rest.head? = some 'e' || rest.head? = some 'E'
  if isExponent then
    let (sign, unsigned) :=
      match rest.drop 1 with
      | '+' :: after => (['+'], after)
      | '-' :: after => (['-'], after)
      | after => ([], after)
    let (digits, after) ← readDecimal unsigned
    return (fraction ++ 'e' :: sign ++ digits, after)
  else return (fraction, rest)

/-- A number at the front of a text. Its whole part, its fraction and its exponent are each a row
of digits that has to fit into a signed word of 64 bits before the sign is put in front, so the
least number of such a word cannot be written. -/
def readNumber (text : List Char) : Option (Value × List Char) :=
  let (negative, unsigned) :=
    match text with
    | '+' :: rest => (false, rest)
    | '-' :: rest => (true, rest)
    | _ => (false, text)
  let signed (value : Nat) : Int := if negative then -value else value
  match readPrefixed unsigned with
  | some (value, rest) => some (.whole (signed value), rest)
  | none =>
    (readDecimal unsigned).bind fun (digits, rest) =>
      (readFraction rest).map fun (fraction, after) =>
        if fraction ≠ [] then
          let sign := if negative then ['-'] else []
          (.real (String.ofList (sign ++ digits ++ fraction)), after)
        else (.whole (signed (Text.ofDigits digits)), after)

/-! ### Values -/

/-- A value at the front of a text. -/
def readValue (text : List Char) : Option (Value × List Char) :=
  match text with
  | 'n' :: 'u' :: 'l' :: 'l' :: rest => some (.null, rest)
  | 't' :: 'r' :: 'u' :: 'e' :: rest => some (.bool true, rest)
  | 'f' :: 'a' :: 'l' :: 's' :: 'e' :: rest => some (.bool false, rest)
  | _ =>
    match readString text with
    | some (content, rest) => some (.string content, rest)
    | none => readNumber text

/-- A property at the front of a text: a name, an equals sign and a value. -/
def readProperty (text : List Char) : Option (Entry × List Char) :=
  match readName text with
  | some (name, '=' :: rest) =>
    ((afterTypeName rest).bind readValue).map fun (value, after) => (⟨some name, value⟩, after)
  | _ => none

/-- An argument at the front of a text. -/
def readArgument (text : List Char) : Option (Entry × List Char) :=
  ((afterTypeName text).bind readValue).map fun (value, after) => (⟨none, value⟩, after)

/-- A property or an argument at the front of a text. -/
def readEntry (text : List Char) : Option (Entry × List Char) :=
  (readProperty text).or (readArgument text)

end Deskbar.Node
