/-
This file holds the flags of patterns, what they make of the signs that depend on them, and
how they are set. In a verbose pattern blanks and comments may stand between any two signs,
also within an escape, a set or the number of a repetition.
-/

import Deskbar.Pattern.Expression
import Deskbar.Text.Blank
import Deskbar.Unicode.Fold

namespace Deskbar.Pattern

/-- What the characters that follow mean. -/
structure Flags where
  ignoreCase : Bool := false
  multiLine : Bool := false
  dotAll : Bool := false
  swapGreed : Bool := false
  verbose : Bool := false
  /-- A carriage return ends a line too. -/
  anyLineEnd : Bool := false
  /-- Sets, words and case are those of every script. Otherwise they are those of ASCII, and what
  would not take whole characters is refused. -/
  unicode : Bool := true
  deriving DecidableEq, Inhabited

/-! ### Setting -/

/-- Sets one flag. -/
def Flags.set (flags : Flags) (value : Bool) (c : Char) : Option Flags :=
  match c with
  | 'i' => some { flags with ignoreCase := value }
  | 'm' => some { flags with multiLine := value }
  | 's' => some { flags with dotAll := value }
  | 'U' => some { flags with swapGreed := value }
  | 'x' => some { flags with verbose := value }
  | 'R' => some { flags with anyLineEnd := value }
  | 'u' => some { flags with unicode := value }
  | _ => none

/-- Sets the flags named up to the first colon or closing parenthesis. The flags behind a dash
are cleared; no flag may come twice, nor the dash, and the dash may not come last. -/
def readFlags (flags : Flags) (seen : List Char) : List Char → Option (Flags × List Char)
  | [] => none
  | c :: rest =>
    if c = ':' || c = ')' then if seen.head? = some '-' then none else some (flags, c :: rest)
    else if seen.contains c then none
    else if c = '-' then readFlags flags (c :: seen) rest
    else
      match flags.set (!seen.contains '-') c with
      | some flags => readFlags flags (c :: seen) rest
      | none => none

/-! ### Meaning -/

/-- A set with the case variants of its characters, if case does not matter. -/
def Flags.closeCase (flags : Flags) (set : CharSet) : CharSet :=
  if flags.ignoreCase then
    if flags.unicode then Unicode.withCaseVariants set else Unicode.withAsciiCaseVariants set
  else set

/-- The condition of a line start or of the start of the text. -/
def Flags.start (flags : Flags) : Boundary :=
  if flags.multiLine then if flags.anyLineEnd then .anyLineStart else .lineStart else .textStart

/-- The condition of a line end or of the end of the text. -/
def Flags.stop (flags : Flags) : Boundary :=
  if flags.multiLine then if flags.anyLineEnd then .anyLineEnd else .lineEnd else .textEnd

/-- The characters that the dot stands for. -/
def Flags.dot (flags : Flags) : CharSet :=
  if flags.dotAll then .all
  else if flags.anyLineEnd then (CharSet.ofRanges [('\n', '\n'), ('\r', '\r')]).complement
  else (CharSet.single '\n').complement

/-! ### Blanks and comments -/

/-- What follows the blanks and comments that a verbose pattern may have anywhere. -/
def skipVerbose : Bool → List Char → List Char
  | _, [] => []
  | true, c :: rest => if c = '\n' then skipVerbose false rest else skipVerbose true rest
  | false, c :: rest =>
    if Text.isBlank c then skipVerbose false rest
    else if c = '#' then skipVerbose true rest
    else c :: rest

/-- The text without the blanks and comments at its front, if the pattern is verbose. -/
def Flags.skip (flags : Flags) (text : List Char) : List Char :=
  if flags.verbose then skipVerbose false text else text

/-- Characters of a kind at the front of a text, `most` of them at most. Behind each a verbose
pattern may have blanks and comments. -/
def Flags.takeSpaced (flags : Flags) (isKind : Char → Bool) :
    Nat → List Char → List Char × List Char
  | most + 1, c :: rest =>
    if isKind c then
      let (taken, after) := takeSpaced flags isKind most (flags.skip rest)
      (c :: taken, after)
    else ([], c :: rest)
  | _, text => ([], text)

/-- The first character that is neither blank nor the sign of a comment, if the pattern is
verbose; else the first character. -/
def Flags.peek (flags : Flags) (text : List Char) : Option Char :=
  if flags.verbose then
    match text.dropWhile Text.isBlank with
    | '#' :: rest => (rest.dropWhile Text.isBlank).head?
    | rest => rest.head?
  else text.head?

end Deskbar.Pattern
