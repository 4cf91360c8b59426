/-
This file keeps a bar running. It is brought in step with the compositor when it connects,
at once again when the clock starts, and whenever work has been announced, and its rows of
buttons go to a feed. When the connection is lost the bar starts over on a new one; the
feed goes on.
-/

import Deskbar.Config.Basic
import Deskbar.Feed
import Deskbar.Session

namespace Deskbar

/-- A bar that is kept running. -/
structure Daemon where
  config : Config
  session : Session
  feed : Feed

namespace Daemon

variable {State : Type}

/-- Brings the bar in step with the compositor and gives out the row of buttons if it changed. A
failure gives out nothing. -/
def refresh (connection : Connection State) (daemon : Daemon) :
    StateM State (List String × Daemon) := do
  let (result, session) ← daemon.session.refresh connection
  let daemon := { daemon with session := session }
  match result with
  | .ok buttons =>
    let (outcome, feed) := daemon.feed.offer true buttons
    let daemon := { daemon with feed := feed }
    match outcome with
    | .written line => return ([line], daemon)
    | _ => return ([], daemon)
  | .error _ => return ([], daemon)

/-- Brings the bar in step twice, as a new connection and the start of the clock ask for. -/
def begin (connection : Connection State) (daemon : Daemon) :
    StateM State (List String × Daemon) := do
  let (first, daemon) ← daemon.refresh connection
  let (second, daemon) ← daemon.refresh connection
  return (first ++ second, daemon)

/-- A bar that is connected for the first time. -/
def start [Pattern.Engine] (config : Config) (connection : Connection State) :
    StateM State (List String × Daemon) :=
  begin connection { config := config, session := Session.start config.bar, feed := {} }

/-- Connects anew after the connection was lost. -/
def reconnect [Pattern.Engine] (connection : Connection State) (daemon : Daemon) :
    StateM State (List String × Daemon) :=
  begin connection { daemon with session := Session.start daemon.config.bar }

/-- Takes in bytes, and brings the bar in step if they announce work. -/
def receive (connection : Connection State) (bytes : List UInt8) (daemon : Daemon) :
    StateM State (List String × Daemon) :=
  let work := Session.eventsFor daemon.session.listener (daemon.session.deliveries bytes)
  let daemon := { daemon with session := daemon.session.receive bytes }
  if work.isEmpty then return ([], daemon) else daemon.refresh connection

end Daemon

end Deskbar
