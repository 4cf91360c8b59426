/-
This file says where the sockets of a compositor are. A compositor has a signature, and
its sockets are in the folder of that name under the runtime directory, or under the
directory for temporary files when the runtime directory knows no compositor.
-/

import Deskbar.Connection.Error

namespace Deskbar

/-- Where the two sockets of a compositor are. -/
structure Sockets where
  command : String
  events : String
  deriving DecidableEq, Inhabited

/-- What the environment says about compositors. -/
structure Environment where
  runtimeDir : Option String
  signature : Option String
  /-- Whether there is something under a path. -/
  present : String → Bool

namespace Sockets

/-- The path of a part below a base. A part from the root stands for itself, and a base without a
slash at its end gets one. -/
def below (base part : String) : String :=
  if part.toList.head? = some '/' then part
  else if base.toList.getLast?.all (· = '/') then base ++ part
  else base ++ "/" ++ part

/-- The folder of a compositor with a signature, given a runtime directory. -/
def folderIn (present : String → Bool) (runtimeDir : Option String) (signature : String) : String :=
  match (runtimeDir.map fun dir => below dir "hypr").filter present with
  | some folder => below folder signature
  | none => below "/tmp/hypr" signature

/-- The folder of a compositor with a signature. A runtime directory without a name does not
count. -/
def folder (environment : Environment) (signature : String) : String :=
  folderIn environment.present (environment.runtimeDir.filter (· ≠ "")) signature

/-- The sockets in a folder. -/
def ofFolder (folder : String) : Sockets :=
  { command := below folder ".socket.sock"
    events := below folder ".socket2.sock" }

/-- The sockets of the compositor that the environment names. -/
def ofEnvironment (environment : Environment) : Except Connection.Error Sockets :=
  match environment.signature.filter (· ≠ "") with
  | some signature => .ok (ofFolder (folder environment signature))
  | none => .error .noSignature

/-- Checks that there is something to connect to. -/
def check (present : String → Bool) (paths : Sockets) : Except Connection.Error Sockets :=
  if !present paths.command then .error (.socketMissing paths.command)
  else if !present paths.events then
    .error (.unreachable ⟨paths.events, .connecting, Connection.nothingThere⟩)
  else .ok paths

end Sockets

/-- Makes an attempt, and as many more as there are repetitions left while attempts fail. An attempt
that finds no signature is not repeated. -/
def retryFrom {Result : Type} (attempt : Nat → Except Connection.Error Result) (number : Nat) :
    Nat → Except Connection.Error Result
  | 0 =>
    match attempt number with
    | .ok result => .ok result
    | .error .noSignature => .error .noSignature
    | .error _ => .error (.gaveUp number)
  | left + 1 =>
    match attempt number with
    | .ok result => .ok result
    | .error .noSignature => .error .noSignature
    | .error _ => retryFrom attempt (number + 1) left

/-- Makes attempts, numbered from one, until one succeeds or so many of them have been
repetitions. -/
def retry {Result : Type} (attempt : Nat → Except Connection.Error Result) (repetitions : Nat) :
    Except Connection.Error Result :=
  retryFrom attempt 1 repetitions

end Deskbar
