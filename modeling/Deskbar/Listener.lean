/-
This file holds the listener of a connected bar, which takes in what the compositor
announces byte by byte. The bytes behind the last line feed wait until their line ends. A
line that holds a record is handed out at once, and any other line is passed over. When the
compositor ends the connection, what waits is a line too, and then the bar is no longer
connected.
-/

import Deskbar.Session

namespace Deskbar

/-- What a listener does. -/
inductive Listener.Act where
  /-- It finds a record on a line. -/
  | read (record : EventRecord)
  /-- It hands an event to a subscription. -/
  | delivered (subscription : Nat) (event : Event)
  /-- It says that the connection has ended. -/
  | disconnected
  deriving DecidableEq

/-- A bar that listens, with all that its listener has done. -/
structure Listener where
  session : Session
  /-- The bytes of the line that has not ended. -/
  unfinished : List UInt8 := []
  acts : List Listener.Act := []

namespace Listener

/-- What is done about a record: everyone who is interested gets its event. -/
def actsOn (subscriptions : Subscriptions) (record : EventRecord) : List Act :=
  .read record :: (subscriptions.deliver record).map fun delivery =>
    .delivered delivery.1 delivery.2

/-- Hands a record out. -/
def handOut (record : EventRecord) (listener : Listener) : Listener :=
  { listener with
    session := listener.session.takeIn (listener.session.subscriptions.deliver record)
    acts := listener.acts ++ actsOn listener.session.subscriptions record }

/-- Comes to the end of a line. -/
def endLine (listener : Listener) : Listener :=
  let next := { listener with unfinished := [] }
  match Event.recordOnLine? listener.unfinished with
  | some record => next.handOut record
  | none => next

/-- Takes in a byte. -/
def hear (listener : Listener) (byte : UInt8) : Listener :=
  if byte = Event.lineFeed then listener.endLine
  else { listener with unfinished := listener.unfinished ++ [byte] }

/-- Takes in bytes, one after the other. -/
def hearAll (bytes : List UInt8) (listener : Listener) : Listener := bytes.foldl hear listener

/-- Comes to the end of the connection. -/
def finish (listener : Listener) : Listener :=
  let last := if listener.unfinished.isEmpty then listener else listener.endLine
  { last with session := last.session.close, acts := last.acts ++ [.disconnected] }

end Listener

end Deskbar
