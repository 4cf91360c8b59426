/-
This file asks the compositor questions. A request is a line of text, and its reply is all
that comes back until the compositor closes the connection. What is at the other end is
given as a state and the way in which a request is answered and changes it.
-/

import Deskbar.Connection.Error
import Deskbar.Json.Reader
import Deskbar.Report.Decoding
import Deskbar.Text.Blank
import Deskbar.Text.Utf8

namespace Deskbar

/-- What comes back for a request. -/
inductive Reply where
  | content (bytes : List UInt8)
  /-- Nothing comes back, and the connection stays open. -/
  | silence
  /-- The socket cannot be used, and the system says why. What came back before counts for
  nothing. -/
  | broken (phase : Connection.Phase) (reason : String)
  deriving DecidableEq, Inhabited

/-- A way to put requests to a compositor. Without a deadline, in milliseconds, a reply is waited
for as long as it takes. -/
structure Connection (State : Type) where
  socket : String
  deadline : Option Nat
  exchange : String → State → Reply × State

/-- A question or several, which may fail. What the compositor has seen stays seen if they do. -/
abbrev Query (State Result : Type) := ExceptT Connection.Error (StateM State) Result

namespace Connection

variable {State : Type}

/-- The error for a request that is not answered. -/
def silenceError (connection : Connection State) (text : String) : Connection.Error :=
  match connection.deadline with
  | some deadline => .timedOut text deadline
  | none => .unanswered text

/-- What a reply says. -/
def readReply (connection : Connection State) (text : String) :
    Reply → Except Connection.Error String
  | .content [] => .error .closed
  | .content bytes => .ok (Text.Utf8.decodeLossy bytes)
  | .silence => .error (connection.silenceError text)
  | .broken phase reason => .error (.unreachable ⟨connection.socket, phase, reason⟩)

/-- Sends a request. -/
def request (connection : Connection State) (text : String) : Query State String :=
  ExceptT.mk fun state =>
    let (reply, state) := connection.exchange text state
    (connection.readReply text reply, state)

/-- The request for a document on something. -/
def documentRequest (query : String) : String := "j/" ++ query

/-- Asks for a document. -/
def document (connection : Connection State) (query : String) : Query State Json := do
  let text ← connection.request (documentRequest query)
  match Json.read? text with
  | some document => return document
  | none => throw (.malformedReply (documentRequest query))

/-- The records in a document. -/
def recordsOf {Record : Type} (read? : Json → Option Record) (query : String) (document : Json) :
    Except Connection.Error (List Record) :=
  match document.records? read? with
  | some records => .ok records
  | none => .error (.notAList query document)

/-- Asks for records. -/
def records {Record : Type} (connection : Connection State) (read? : Json → Option Record)
    (query : String) : Query State (List Record) := do
  let document ← connection.document query
  match recordsOf read? query document with
  | .ok records => return records
  | .error error => throw error

/-- Asks for the workspaces. -/
def workspaces (connection : Connection State) : Query State (List ReportedWorkspace) :=
  connection.records ReportedWorkspace.read? "workspaces"

/-- Asks for the monitors. -/
def monitors (connection : Connection State) : Query State (List ReportedMonitor) :=
  connection.records ReportedMonitor.read? "monitors"

/-- Asks for the windows. -/
def windows (connection : Connection State) : Query State (List ReportedWindow) :=
  connection.records ReportedWindow.read? "clients"

/-- Asks for the rules for workspaces. -/
def rules (connection : Connection State) : Query State (List ReportedRule) :=
  connection.records ReportedRule.read? "workspacerules"

/-- Asks for everything at once. A compositor that knows no rules has none. -/
def snapshot (connection : Connection State) : Query State Snapshot := do
  let workspaces ← connection.workspaces
  let monitors ← connection.monitors
  let windows ← connection.windows
  let rules ← tryCatch connection.rules fun _ => pure []
  return { workspaces := workspaces, monitors := monitors, windows := windows, rules := rules }

/-- Whether a reply to a command says that it was carried out. -/
def accepts (reply : String) : Bool := Text.trim reply.toList = ['o', 'k']

/-- Has a command carried out. -/
def order (connection : Connection State) (command : String) : Query State Unit := do
  let reply ← connection.request command
  if accepts reply then return ()
  else throw (.rejected command (String.ofList (Text.trim reply.toList)))

end Connection

end Deskbar
