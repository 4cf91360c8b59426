/-
This file holds sets of characters, written down as the ascending code points at which
membership changes. The first bound opens a range, the second closes it, the third opens
the next one, and so on; a last range that nothing closes goes on to the last character
there is. The sets that a combination of two others can make are all made by one walk
along both rows of bounds.
-/

namespace Deskbar

/-- A set of characters as the code points at which membership changes. -/
structure CharSet where
  bounds : List Nat
  deriving DecidableEq, Inhabited

namespace CharSet

/-! ### Membership -/

/-- Whether a code point is inside after the bounds at or below it, each of which changes sides. -/
def isInside (code : Nat) : Bool → List Nat → Bool
  | inside, [] => inside
  | inside, bound :: bounds => if bound ≤ code then isInside code (!inside) bounds else inside

/-- Whether a code point lies in one of the ranges. -/
def containsCode (set : CharSet) (code : Nat) : Bool := isInside code false set.bounds

/-- Whether a character is in the set. -/
def contains (set : CharSet) (c : Char) : Bool := set.containsCode c.toNat

/-! ### Ranges -/

/-- The code point of the last character. -/
def lastCode : Nat := 0x10FFFF

/-- The set of no character. -/
def empty : CharSet := ⟨[]⟩

/-- The set of all characters. -/
def all : CharSet := ⟨[0]⟩

/-- The characters with code points from `first` to `last`. -/
def ofCodes (first last : Nat) : CharSet :=
  ⟨if last < lastCode then [first, last + 1] else [first]⟩

/-- The characters from `first` to `last`. -/
def range (first last : Char) : CharSet := ofCodes first.toNat last.toNat

/-- The characters of ASCII. -/
def ascii : CharSet := ofCodes 0x00 0x7F

/-- The set of one character. -/
def single (c : Char) : CharSet := range c c

/-- The ranges between bounds, as their first and last code points. -/
def rangesBetween : List Nat → List (Nat × Nat)
  | [] => []
  | [first] => [(first, lastCode)]
  | first :: beyond :: bounds => (first, beyond - 1) :: rangesBetween bounds

/-- The ranges of a set, as their first and last code points. -/
def ranges (set : CharSet) : List (Nat × Nat) := rangesBetween set.bounds

/-- The only character of a set that has one. -/
def single? (set : CharSet) : Option Char :=
  match set.ranges with
  | [(first, last)] => if first = last then some (Char.ofNat first) else none
  | _ => none

/-! ### Combinations -/

/-- The characters that are not in a set. -/
def complement (set : CharSet) : CharSet :=
  match set.bounds with
  | 0 :: bounds => ⟨bounds⟩
  | bounds => ⟨0 :: bounds⟩

/-- Keeps a bound if membership changes there. -/
def keepChange (before after : Bool) (bound : Nat) (bounds : List Nat) : List Nat :=
  if before = after then bounds else bound :: bounds

/-- The bounds of a combination, from a place that is inside the two sets as the first arguments
say. -/
def combineBounds (holds : Bool → Bool → Bool) (inFirst inSecond : Bool) :
    List Nat → List Nat → List Nat
  | [], [] => []
  | bound :: first, [] =>
    keepChange (holds inFirst inSecond) (holds (!inFirst) inSecond) bound
      (combineBounds holds (!inFirst) inSecond first [])
  | [], bound :: second =>
    keepChange (holds inFirst inSecond) (holds inFirst (!inSecond)) bound
      (combineBounds holds inFirst (!inSecond) [] second)
  | bound :: first, other :: second =>
    if bound < other then
      keepChange (holds inFirst inSecond) (holds (!inFirst) inSecond) bound
        (combineBounds holds (!inFirst) inSecond first (other :: second))
    else if other < bound then
      keepChange (holds inFirst inSecond) (holds inFirst (!inSecond)) other
        (combineBounds holds inFirst (!inSecond) (bound :: first) second)
    else
      keepChange (holds inFirst inSecond) (holds (!inFirst) (!inSecond)) bound
        (combineBounds holds (!inFirst) (!inSecond) first second)
termination_by first second => first.length + second.length

/-- The characters for which a condition on their membership in two sets holds. The condition
has to fail for those in neither. -/
def combine (holds : Bool → Bool → Bool) (first second : CharSet) : CharSet :=
  ⟨combineBounds holds false false first.bounds second.bounds⟩

/-- The characters in either set. -/
def union (first second : CharSet) : CharSet := combine (· || ·) first second

/-- The characters in both sets. -/
def intersection (first second : CharSet) : CharSet := combine (· && ·) first second

/-- The characters in the first set but not in the second. -/
def difference (first second : CharSet) : CharSet := combine (fun a b => a && !b) first second

/-- The characters in one set but not in the other. -/
def symmetricDifference (first second : CharSet) : CharSet := combine (· != ·) first second

/-- Puts a code point into a set. -/
def insertCode (set : CharSet) (code : Nat) : CharSet :=
  if set.containsCode code then set else set.union (ofCodes code code)

/-- The union of ranges. -/
def ofRanges (ranges : List (Char × Char)) : CharSet :=
  ranges.foldl (fun set (first, last) => set.union (range first last)) empty

/-! ### Names -/

/-- The ASCII set that a name stands for in patterns. -/
def named? (name : String) : Option CharSet :=
  match name with
  | "alnum" => some (ofRanges [('0', '9'), ('A', 'Z'), ('a', 'z')])
  | "alpha" => some (ofRanges [('A', 'Z'), ('a', 'z')])
  | "ascii" => some ascii
  | "blank" => some (ofRanges [('\t', '\t'), (' ', ' ')])
  | "cntrl" => some (ofRanges [('\x00', '\x1F'), ('\x7F', '\x7F')])
  | "digit" => some (ofRanges [('0', '9')])
  | "graph" => some (ofRanges [('!', '~')])
  | "lower" => some (ofRanges [('a', 'z')])
  | "print" => some (ofRanges [(' ', '~')])
  | "punct" => some (ofRanges [('!', '/'), (':', '@'), ('[', '`'), ('\x7B', '~')])
  | "space" => some (ofRanges [('\t', '\r'), (' ', ' ')])
  | "upper" => some (ofRanges [('A', 'Z')])
  | "word" => some (ofRanges [('0', '9'), ('A', 'Z'), ('_', '_'), ('a', 'z')])
  | "xdigit" => some (ofRanges [('0', '9'), ('A', 'F'), ('a', 'f')])
  | _ => none

end CharSet

end Deskbar
