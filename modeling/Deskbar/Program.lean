/-
This file holds what the program does for each command, as what it prints and the code it
ends with. A command that needs the compositor asks it once and then prints or acts.
-/

import Deskbar.Connection
import Deskbar.CommandLine.Help
import Deskbar.Config.Loader
import Deskbar.Pattern.Compiled
import Deskbar.Session

namespace Deskbar

/-- What the program prints, and whether it did what it was asked to. -/
structure Outcome where
  code : Nat
  printed : String
  /-- What went wrong, if something did. -/
  complaint : Option String := none
  deriving DecidableEq, Inhabited

namespace Outcome

/-- The program did what it was asked to. -/
def success (printed : String) : Outcome := { code := 0, printed := printed }

/-- The program failed. -/
def failure (printed complaint : String) : Outcome :=
  { code := 1, printed := printed, complaint := some complaint }

/-- The program was called in a wrong way. -/
def misuse : Outcome :=
  { code := 2, printed := "", complaint := some ("Usage: " ++ HelpTopic.program.usage) }

end Outcome

namespace Program

/-- Lines as they are printed. -/
def printLines (lines : List String) : String := String.join (lines.map (· ++ "\n"))

/-! ### Commands without a compositor -/

/-- What is printed about a configuration that could be read. -/
def validationLines (bar : Bar) : List String :=
  let config := bar.config
  let persistent :=
    if bar.persistent.isEmpty then []
    else ["  Persistent workspaces: " ++ Text.join ", " bar.persistent]
  ["Configuration is valid!",
    "  Output: " ++ config.output.getD "<all>",
    "  Sort: " ++ config.arrangement.name,
    "  Format: " ++ Text.quoted config.format] ++ persistent ++
  ["  Rewrite rules: " ++ toString config.rules.length ++ " (" ++
    toString bar.rewriter.rules.length ++ " usable)"]

/-- Checks a configuration. Rules that cannot be used make the check fail. -/
def validate [Pattern.Engine] (path : String) (loaded : Except Config.Error Config) : Outcome :=
  let start := "Validating configuration: " ++ path
  match loaded with
  | .error error => .failure (printLines [start]) error.message
  | .ok config =>
    let bar := Bar.ofConfig config.bar
    let printed := printLines (start :: validationLines bar)
    let broken := config.bar.rules.length - bar.rewriter.rules.length
    if broken = 0 then .success printed
    else .failure printed (toString broken ++ " rewrite rule(s) have invalid patterns")

/-- Shows the text for a window. -/
def rewrite [Pattern.Engine] (windowClass title : String)
    (loaded : Except Config.Error Config) : Outcome :=
  match loaded with
  | .error error => .failure "" error.message
  | .ok config =>
    let rewriter := Rewriter.ofConfig config.bar
    let input := rewriter.windowInput windowClass title
    let note :=
      if (rewriter.resolve input).matched then [] else ["(no rule matched, default used)"]
    .success (printLines (["Input:  " ++ input,
      "Output: " ++ rewriter.windowText windowClass title] ++ note))

/-! ### Commands with a compositor -/

/-- A text with blanks in front of it up to a width. -/
def padLeft (width : Nat) (text : String) : String :=
  String.ofList (List.replicate (width - text.length) ' ') ++ text

/-- The lines for a button: its columns, and below them the texts of its windows. -/
def buttonLines (button : Button) : List String :=
  let columns :=
    padLeft 4 ((button.id.map toString).getD "-") ++ "  " ++
      HelpTopic.padRight 16 button.label ++ " " ++ HelpTopic.padRight 12 button.output ++ " [" ++
      Text.join " " button.classes ++ "]"
  let windows := (Text.lines button.tooltip.toList).drop 1
  columns :: windows.map fun line => "        " ++ String.ofList line

/-- The buttons as they are printed. -/
def printButtons (asDocument : Bool) (buttons : List Button) : String :=
  if asDocument then printLines [(Button.documentOf buttons).spread]
  else printLines (buttons.flatMap buttonLines)

/-- Connects to a compositor with a deadline for its answers. -/
abbrev Connect (State : Type) := Option Nat → Except Connection.Error (Connection State)

variable {State : Type}

/-- Has a compositor asked once, and something done with the bar and its buttons. -/
def withBar [Pattern.Engine] (connect : Connect State) (loaded : Except Config.Error Config)
    (act : Connection State → Tracker → List Button → StateM State Outcome) :
    StateM State Outcome := do
  match loaded with
  | .error error => return .failure "" error.message
  | .ok config =>
    match connect config.service.requestTimeout with
    | .error error => return .failure "" error.message
    | .ok connection =>
      let (result, tracker) ← (Tracker.ofConfig config.bar).refresh connection
      match result with
      | .error error => return .failure "" error.message
      | .ok buttons => act connection tracker buttons

/-- Prints the workspaces. -/
def workspaces [Pattern.Engine] (connect : Connect State)
    (loaded : Except Config.Error Config) (asDocument : Bool) : StateM State Outcome :=
  withBar connect loaded fun _ _ buttons => return .success (printButtons asDocument buttons)

/-- Has the compositor show a workspace. -/
def focus [Pattern.Engine] (connect : Connect State) (loaded : Except Config.Error Config)
    (name : String) : StateM State Outcome :=
  withBar connect loaded fun connection tracker _ => do
    match tracker.command? name with
    | none => return .failure "" ("No workspace named `" ++ name ++ "` on this bar")
    | some command =>
      match ← (connection.order command).run with
      | .ok _ => return .success ""
      | .error error => return .failure "" error.message

/-! ### All commands -/

/-- Carries out a command, with the engine for patterns that runs. -/
def runCommand (path : String) (content : Option (List UInt8)) (connect : Connect State)
    (command : Command) : StateM State Outcome :=
  let loaded := Config.ofFile path content
  match command with
  | .validate => return validate path loaded
  | .rewrite windowClass title => return rewrite windowClass title loaded
  | .workspaces asDocument => workspaces connect loaded asDocument
  | .focus name => focus connect loaded name

/-- Does what a command line says. The content of the configuration is missing if there is no such
file. -/
def run (path : String) (content : Option (List UInt8)) (connect : Connect State) :
    CommandLine → StateM State Outcome
  | .run _ command => runCommand path content connect command
  | .showHelp topic => return .success topic.text
  | .showVersion => return .success (printLines [versionLine])
  | .misuse => return .misuse

end Program

end Deskbar
