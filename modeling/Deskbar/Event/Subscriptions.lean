/-
This file keeps track of who listens to which announcements. A subscription says by the
name of a record whether it is interested. Every interested subscription gets the event of
a record once, in the order in which they were added; a record that is not understood goes
to none of them.
-/

import Deskbar.Event.Basic

namespace Deskbar

/-- Someone who listens. -/
structure Subscription where
  id : Nat
  accepts : String → Bool

/-- All who listen, and how many ever did. -/
structure Subscriptions where
  added : Nat := 0
  entries : List Subscription := []

namespace Subscriptions

/-- The id that the next subscription gets. -/
def nextId (subscriptions : Subscriptions) : Nat := subscriptions.added + 1

/-- Adds a subscription, under an id that has not been given out before. -/
def add (accepts : String → Bool) (subscriptions : Subscriptions) : Subscriptions :=
  { added := subscriptions.added + 1
    entries := subscriptions.entries ++ [⟨subscriptions.nextId, accepts⟩] }

/-- Whether someone listens under an id. -/
def contains (subscriptions : Subscriptions) (id : Nat) : Bool :=
  subscriptions.entries.any fun subscription => subscription.id = id

/-- Removes a subscription. -/
def remove (id : Nat) (subscriptions : Subscriptions) : Subscriptions :=
  { subscriptions with
    entries := subscriptions.entries.filter fun subscription => subscription.id ≠ id }

/-- Who gets what when a record comes in. -/
def deliver (subscriptions : Subscriptions) (record : EventRecord) : List (Nat × Event) :=
  match Event.ofRecord record with
  | .ok event =>
    (subscriptions.entries.filter fun subscription => subscription.accepts record.name).map
      fun subscription => (subscription.id, event)
  | .error _ => []

/-- Who gets what when a row of records comes in. -/
def deliverAll (subscriptions : Subscriptions) (records : List EventRecord) :
    List (Nat × Event) :=
  records.flatMap subscriptions.deliver

/-- The subscriptions in a few words. -/
def summary (subscriptions : Subscriptions) : String :=
  "Subscriptions \x7b count: " ++ toString subscriptions.entries.length ++ " \x7d"

end Subscriptions

end Deskbar
