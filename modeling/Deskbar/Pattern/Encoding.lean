/-
This file says how the characters of a set are written in UTF-8, as rows of byte ranges: a
row stands for all encodings that take one byte from each of its ranges. The rows of a set
come in the order of their encodings, so rows that begin alike stand next to one another,
and reading them byte by byte goes through a tree whose edges are labelled with ranges.
-/

import Deskbar.CharSet
import Deskbar.Text.Numeral

namespace Deskbar.Pattern

/-- Byte ranges one behind another, each with its first and last byte. -/
abbrev ByteRow := List (Nat × Nat)

/-- The rows for the numbers from `first` to `last`, written with a leading digit to which `mark`
is added and `places` more digits of six bits. -/
def digitRows (mark : Nat) : Nat → Nat → Nat → List ByteRow
  | 0, first, last => [[(mark + first, mark + last)]]
  | places + 1, first, last =>
    let size := Text.bitRange (6 * (places + 1))
    let lowest := first / size
    let highest := last / size
    let under (digit low high : Nat) :=
      (digitRows 0x80 places low high).map ((mark + digit, mark + digit) :: ·)
    if lowest = highest then under lowest (first % size) (last % size)
    else
      let before := if first % size = 0 then [] else under lowest (first % size) (size - 1)
      let after := if last % size = size - 1 then [] else under highest 0 (last % size)
      let low := if before.isEmpty then lowest else lowest + 1
      let high := if after.isEmpty then highest else highest - 1
      let between :=
        if low ≤ high then
          [(mark + low, mark + high) :: List.replicate (places + 1) (0x80, 0xBF)]
        else []
      before ++ between ++ after

/-- The characters whose encodings have a length. -/
structure EncodingLength where
  first : Nat
  last : Nat
  /-- What is added to the leading digit. -/
  mark : Nat
  /-- The number of bytes behind the first. -/
  places : Nat

/-- The lengths that there are, in order. No character lies between the two parts of the third. -/
def encodingLengths : List EncodingLength :=
  [⟨0, 0x7F, 0, 0⟩, ⟨0x80, 0x7FF, 0xC0, 1⟩, ⟨0x800, 0xD7FF, 0xE0, 2⟩, ⟨0xE000, 0xFFFF, 0xE0, 2⟩,
    ⟨0x10000, CharSet.lastCode, 0xF0, 3⟩]

/-- The rows of a set. -/
def encodingRows (set : CharSet) : List ByteRow :=
  set.ranges.flatMap fun (first, last) =>
    encodingLengths.flatMap fun length =>
      let low := max first length.first
      let high := min last length.last
      if low ≤ high then digitRows length.mark length.places low high else []

/-- What is left of the rows behind each of their first ranges. -/
def continuations (rows : List ByteRow) : List (List ByteRow) :=
  (rows.splitBy fun row next => row.head? == next.head?).map (·.map List.tail)

/-- The branchings of the tree of rows, down to a depth: each as the rows that are left there. -/
def branchings : Nat → List ByteRow → List (List ByteRow)
  | 0, _ => []
  | depth + 1, rows =>
    rows :: ((continuations rows).filter (· ≠ [[]])).flatMap (branchings depth)

/-- The branchings of the tree for a set. An encoding has at most four bytes. -/
def encodingBranchings (set : CharSet) : List (List ByteRow) := branchings 4 (encodingRows set)

end Deskbar.Pattern
