/-
This file says which characters are blank and removes them from the ends of a text.
Blank means the white space of every script: the ASCII controls from tab to carriage
return, the space, the next-line and no-break characters and the wide spaces. The
zero-width space, the byte order mark and the ASCII separators are not blank.
-/

import Deskbar.CharSet

namespace Deskbar.Text

/-- The white space of every script. -/
def blankRanges : CharSet where
  bounds :=
   [0x09, 0x0E, 0x20, 0x21, 0x85, 0x86, 0xA0, 0xA1, 0x1680, 0x1681, 0x2000, 0x200B, 0x2028, 0x202A,
    0x202F, 0x2030, 0x205F, 0x2060, 0x3000, 0x3001]

/-- Whether a character is white space. -/
def isBlank (c : Char) : Bool := blankRanges.contains c

/-- The characters from the first one on that is not blank. -/
def trimStart (text : List Char) : List Char := text.dropWhile isBlank

/-- The characters up to the last one that is not blank. -/
def trimEnd (text : List Char) : List Char := (text.reverse.dropWhile isBlank).reverse

/-- The characters between the blank ones at either end. -/
def trim (text : List Char) : List Char := trimEnd (trimStart text)

end Deskbar.Text
