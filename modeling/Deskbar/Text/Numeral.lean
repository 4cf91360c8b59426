/-
This file reads whole numbers. A numeral is an optional sign and at least one ASCII digit,
with nothing around it. A reader for a range refuses the numerals of numbers outside it.
-/

namespace Deskbar.Text

/-- The value of a digit character. -/
def digitValue (c : Char) : Nat := c.toNat - '0'.toNat

/-- The number a row of digits stands for in base ten. -/
def ofDigits (digits : List Char) : Nat :=
  digits.foldl (fun value c => 10 * value + digitValue c) 0

/-- The number written by one or more digits. -/
def readNat? (text : List Char) : Option Nat :=
  if text ≠ [] ∧ text.all Char.isDigit then some (ofDigits text) else none

/-- The number written by an optional sign and one or more digits. -/
def readInt? : List Char → Option Int
  | '+' :: digits => (readNat? digits).map Int.ofNat
  | '-' :: digits => (readNat? digits).map fun value => -Int.ofNat value
  | digits => (readNat? digits).map Int.ofNat

/-- How many numbers so many bits tell apart. -/
def bitRange (bits : Nat) : Nat := Nat.pow 2 bits

/-- Whether a number fits into a signed word with so many bits besides its sign. -/
def fitsSigned (bits : Nat) (value : Int) : Bool :=
  -(bitRange bits : Int) ≤ value && value < bitRange bits

/-- Whether a number fits into a signed word of 64 bits. -/
def fitsWord64 (value : Int) : Bool := fitsSigned 63 value

/-- Whether a number fits into a signed word of 32 bits. -/
def fitsWord32 (value : Int) : Bool := fitsSigned 31 value

/-- The number a text writes, when it fits into a signed word of 64 bits. -/
def readWord64? (text : String) : Option Int :=
  (readInt? text.toList).filter fitsWord64

/-- The hexadecimal digits of a number, lower case, without leading zeros. -/
def hexDigits (value : Nat) : List Char := Nat.toDigits 16 value

/-- The value of a hexadecimal digit. -/
def hexDigitValue? (c : Char) : Option Nat :=
  if c.isDigit then some (digitValue c)
  else if 'a' ≤ c ∧ c ≤ 'f' then some (c.toNat - 'a'.toNat + 10)
  else if 'A' ≤ c ∧ c ≤ 'F' then some (c.toNat - 'A'.toNat + 10)
  else none

/-- The number that hexadecimal digits write; `none` when one of them is not a digit. -/
def readHex? (digits : List Char) : Option Nat :=
  digits.foldlM (fun value c => (hexDigitValue? c).map (16 * value + ·)) 0

end Deskbar.Text
