/-
This file holds a compositor that plays back replies, for trying a bar out without a
running one. Every request has a row of replies; they are given one after the other, and
the last one again and again.
-/

import Deskbar.Connection
import Deskbar.SortedMap

namespace Deskbar

/-- The replies to play back, and the requests that came in, in their order. A reply that is missing
from a row is never given. -/
structure Playback where
  replies : SortedMap String (List (Option (List UInt8)))
  received : List String := []
  /-- Whether the compositor takes requests. -/
  listening : Bool := true

namespace Playback

/-- The reply to a request that has none. -/
def unknownReply : List UInt8 := "unknown request".toUTF8.data.toList

/-- A reply as it comes back. -/
def replyOf : Option (List UInt8) → Reply
  | some bytes => .content bytes
  | none => .silence

/-- The next reply of a row, and the row after it. -/
def next : List (Option (List UInt8)) → Reply × List (Option (List UInt8))
  | [] => (.content unknownReply, [])
  | [last] => (replyOf last, [last])
  | reply :: rest => (replyOf reply, rest)

/-- Answers a request. -/
def exchange (request : String) (playback : Playback) : Reply × Playback :=
  if playback.listening then
    let playback := { playback with received := playback.received ++ [request] }
    match playback.replies.get? request with
    | some row =>
      let (reply, row) := next row
      (reply, { playback with replies := playback.replies.insert request row })
    | none => (.content unknownReply, playback)
  else (.broken .connecting Connection.nothingThere, playback)

/-- A way to put requests to a compositor that plays back. -/
def connection (socket : String) (deadline : Option Nat) : Connection Playback :=
  { socket := socket, deadline := deadline, exchange := exchange }

/-- Replaces rows of replies. -/
def setReplies (rows : List (String × List (Option (List UInt8)))) (playback : Playback) :
    Playback :=
  { playback with
    replies := rows.foldl (fun replies row => replies.insert row.1 row.2) playback.replies }

end Playback

end Deskbar
