/-
This file says how talking to the compositor can fail, and in which words.
-/

import Deskbar.Binary64
import Deskbar.Json.Basic
import Deskbar.Json.Writer
import Deskbar.Text.Quoted

namespace Deskbar

/-- How far the use of a socket has come. -/
inductive Connection.Phase where
  | connecting
  | sending
  | receiving
  deriving DecidableEq, Inhabited

/-- A socket that cannot be used, and what the system says about it. -/
structure Connection.Breakdown where
  socket : String
  phase : Phase
  reason : String
  deriving DecidableEq, Inhabited

/-- How talking to the compositor can fail. Times are in milliseconds. -/
inductive Connection.Error where
  /-- The environment names no compositor. -/
  | noSignature
  | socketMissing (path : String)
  | unreachable (breakdown : Connection.Breakdown)
  /-- The reply is not a document. -/
  | malformedReply (request : String)
  /-- The reply is a document and should have been a list. -/
  | notAList (request : String) (reply : Json)
  /-- The compositor did not carry a command out. -/
  | rejected (request reply : String)
  | timedOut (request : String) (deadline : Nat)
  /-- The compositor does not answer, and there is no deadline for it. -/
  | unanswered (request : String)
  | closed
  | gaveUp (attempts : Nat)
  deriving Inhabited

/-- The words for the kind of a document. -/
def Json.kindWords : Json → String
  | .null => "null"
  | .bool value => "boolean `" ++ (if value then "true" else "false") ++ "`"
  | .number (.whole value) => "integer `" ++ toString value ++ "`"
  | .number (.real value) => "floating point `" ++ value.documentText ++ "`"
  | .string text => "string " ++ Text.quoted text
  | .array _ => "sequence"
  | .object _ => "map"

namespace Connection

/-- What the system says about a path under which there is nothing. -/
def nothingThere : String := "No such file or directory (os error 2)"

/-- The text that says how far a socket could be used. Only before the connection is there does it
name the socket. -/
def Breakdown.message (breakdown : Breakdown) : String :=
  let failed :=
    match breakdown.phase with
    | .connecting => "Failed to connect to compositor socket at " ++ breakdown.socket
    | .sending => "Failed to send request to compositor"
    | .receiving => "Failed to receive from compositor"
  failed ++ ": " ++ breakdown.reason

end Connection

namespace Connection.Error

/-- A number of thousandths behind a decimal point, without zeros at the end. -/
def fractionWords (thousandths : Nat) : String :=
  let digits := Nat.toDigits 10 (1000 + thousandths)
  let kept := (digits.drop 1).reverse.dropWhile (· = '0')
  if kept.isEmpty then "" else String.ofList ('.' :: kept.reverse)

/-- The words for a time: in seconds from one second on. -/
def timeWords (milliseconds : Nat) : String :=
  if milliseconds = 0 then "0ns"
  else if milliseconds < 1000 then toString milliseconds ++ "ms"
  else toString (milliseconds / 1000) ++ fractionWords (milliseconds % 1000) ++ "s"

/-- The text that says how talking to the compositor failed. -/
def message : Connection.Error → String
  | .noSignature =>
    "HYPRLAND_INSTANCE_SIGNATURE environment variable not set - is the compositor running?"
  | .socketMissing path => "Compositor socket not found at " ++ path
  | .unreachable breakdown => breakdown.message
  | .malformedReply request =>
    "Failed to deserialize reply to `" ++ request ++ "`: malformed document"
  | .notAList request reply =>
    "Failed to deserialize reply to `" ++ request ++ "`: invalid type: " ++ reply.kindWords ++
      ", expected a sequence"
  | .rejected request reply => "Compositor rejected `" ++ request ++ "`: " ++ reply
  | .timedOut request deadline =>
    "Request `" ++ request ++ "` timed out after " ++ timeWords deadline
  | .unanswered request => "Request `" ++ request ++ "` was never answered"
  | .closed => "Connection to compositor closed unexpectedly"
  | .gaveUp attempts =>
    "Failed to connect to compositor after " ++ toString attempts ++ " attempts"

end Connection.Error

end Deskbar
