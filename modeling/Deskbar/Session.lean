/-
This file holds a bar while it is connected to a compositor. The bar listens to the
announcements that make work; others may listen too. When the compositor closes the
connection nothing is announced any more, and everything announced before has been
delivered.
-/

import Deskbar.Connection
import Deskbar.Event.Stream
import Deskbar.Event.Subscriptions
import Deskbar.Tracker

namespace Deskbar

/-- A bar that is connected, or was. -/
structure Session where
  tracker : Tracker
  subscriptions : Subscriptions
  /-- The subscription of the bar itself. -/
  listener : Nat
  connected : Bool

/-- Brings the bar in step with the compositor. If a question fails, the bar stays as it is and the
work goes on waiting. -/
def Tracker.refresh {State : Type} (connection : Connection State) (tracker : Tracker) :
    StateM State (Except Connection.Error (List Button) × Tracker) := do
  match ← connection.snapshot.run with
  | .ok snapshot =>
    let tracker := tracker.tick snapshot
    return (.ok tracker.buttons, tracker)
  | .error error => return (.error error, tracker)

namespace Session

/-- Connects a bar that has been told nothing yet. -/
def start [Pattern.Engine] (config : BarConfig) : Session :=
  let subscriptions : Subscriptions := {}
  { tracker := Tracker.ofConfig config
    subscriptions := subscriptions.add isTracked
    listener := subscriptions.nextId
    connected := true }

/-- What is delivered when bytes come in. -/
def deliveries (session : Session) (bytes : List UInt8) : List (Nat × Event) :=
  if session.connected then session.subscriptions.deliverAll (Event.recordsIn bytes) else []

/-- The events among deliveries that go to a subscription. -/
def eventsFor (id : Nat) (deliveries : List (Nat × Event)) : List Event :=
  (deliveries.filter fun delivery => delivery.1 = id).map Prod.snd

/-- Takes in the events among deliveries that go to the bar itself. -/
def takeIn (deliveries : List (Nat × Event)) (session : Session) : Session :=
  { session with tracker := session.tracker.pushAll (eventsFor session.listener deliveries) }

/-- Takes in bytes. -/
def receive (bytes : List UInt8) (session : Session) : Session :=
  session.takeIn (session.deliveries bytes)

/-- Ends the connection. -/
def close (session : Session) : Session := { session with connected := false }

/-- Takes in the last bytes, behind which the compositor ends the connection. -/
def finish (bytes : List UInt8) (session : Session) : Session := (session.receive bytes).close

/-- Whether the bar itself listens. -/
def isListening (session : Session) : Bool := session.subscriptions.contains session.listener

/-- Lets the bar listen no longer. -/
def stopListening (session : Session) : Session :=
  { session with subscriptions := session.subscriptions.remove session.listener }

/-- Brings the bar in step with the compositor. -/
def refresh {State : Type} (connection : Connection State) (session : Session) :
    StateM State (Except Connection.Error (List Button) × Session) := do
  let (result, tracker) ← session.tracker.refresh connection
  return (result, { session with tracker := tracker })

end Session

end Deskbar
