/-
This file is the program: it reads the command line, the environment and the configuration
file, has the command carried out, and prints what comes of it. It opens no socket, so to
its commands no compositor takes requests.
-/

import Deskbar.Connection.Sockets
import Deskbar.Program

open Deskbar

/-- A path with the home directory put in for a tilde in front. -/
def expandHome (home : Option String) (path : String) : String :=
  match home, path.toList with
  | some home, ['~'] => home
  | some home, '~' :: '/' :: rest => home ++ "/" ++ String.ofList rest
  | _, _ => path

/-- The content of a file, if it can be read. -/
def readContent (path : String) : IO (Option (List UInt8)) := do
  try
    let content ← IO.FS.readBinFile path
    return some content.data.toList
  catch _ => return none

/-- Whether something can be opened under a path. -/
def canOpen (path : String) : IO Bool := do
  try
    let _ ← IO.FS.Handle.mk path .read
    return true
  catch _ => return false

/-- What the environment says about compositors. -/
def readEnvironment : IO Environment := do
  let runtimeDir ← IO.getEnv "XDG_RUNTIME_DIR"
  let signature ← IO.getEnv "HYPRLAND_INSTANCE_SIGNATURE"
  let folder := Sockets.below (runtimeDir.getD "") "hypr"
  let there ← canOpen folder
  return { runtimeDir := runtimeDir, signature := signature,
           present := fun path => there && path = folder }

/-- A way to put requests to a compositor that takes none. -/
def connectNowhere (environment : Environment) : Program.Connect Unit := fun deadline => do
  let paths ← Sockets.ofEnvironment environment
  return { socket := paths.command, deadline := deadline
           exchange := fun _ state => (.broken .connecting Connection.nothingThere, state) }

/-- The path of the configuration that a command line names. -/
def configPathOf : CommandLine → String
  | .run options _ => options.config.getD defaultConfigPath
  | _ => defaultConfigPath

/-- Runs the program. -/
def main (words : List String) : IO UInt32 := do
  let commandLine := CommandLine.ofWords words
  let path := expandHome (← IO.getEnv "HOME") (configPathOf commandLine)
  let content ← readContent path
  let environment ← readEnvironment
  let (outcome, _) :=
    (Program.run path content (connectNowhere environment) commandLine).run ()
  IO.print outcome.printed
  match outcome.complaint with
  | some complaint => IO.eprintln complaint
  | none => pure ()
  return UInt32.ofNat outcome.code
