/-
This file reads the bytes that the compositor sends as announcements. A line feed ends a
line, and what follows the last line feed is a line unless it is empty. Every line stands
for itself: one that holds no record is passed over.
-/

import Deskbar.Event.Basic
import Deskbar.Text.Utf8

namespace Deskbar.Event

/-- The byte that ends a line. -/
def lineFeed : UInt8 := 0x0A

/-- The lines of a byte sequence, without their line feeds. -/
def byteLines : List UInt8 → List (List UInt8)
  | [] => []
  | byte :: rest =>
    if byte = lineFeed then [] :: byteLines rest
    else
      match byteLines rest with
      | [] => [[byte]]
      | first :: others => (byte :: first) :: others

/-- The record on a line. -/
def recordOnLine? (line : List UInt8) : Option EventRecord :=
  (EventRecord.ofLine (Text.Utf8.decodeLossy line)).toOption

/-- The records in a byte sequence. -/
def recordsIn (bytes : List UInt8) : List EventRecord := (byteLines bytes).filterMap recordOnLine?

end Deskbar.Event
