/-
This file holds the help that the program gives about itself. Help on a topic says what it
is for, how to call it, and in columns what can be said behind it.
-/

import Deskbar.CommandLine.Basic

namespace Deskbar

/-- The place of the configuration when none is named. -/
def defaultConfigPath : String := "~/.config/wsbar/config.kdl"

/-- The log level when none is named. -/
def defaultLogLevel : String := "warn"

/-- The name of the program with its version. -/
def versionLine : String := "wsbar 0.1.0"

namespace HelpTopic

/-- A text with blanks behind it up to a width. -/
def padRight (width : Nat) (text : String) : String :=
  text ++ String.ofList (List.replicate (width - text.length) ' ')

/-- A heading with two columns below it. -/
def table (heading : String) (rows : List (String × String)) : List String :=
  let width := rows.foldl (fun width row => max width row.1.length) 0
  "" :: (heading ++ ":") :: rows.map fun row => "  " ++ padRight width row.1 ++ "  " ++ row.2

/-- What a topic is for. -/
def purpose : HelpTopic → String
  | .program => "Workspace state tool for Hyprland bars"
  | .validate => "Validate the configuration file"
  | .rewrite => "Show what a window would be displayed as"
  | .workspaces => "Print the reconciled workspace list once"
  | .focus => "Focus a workspace by name"
  | .help => "Print this message or the help of the given subcommand(s)"

/-- How a topic is called. -/
def usage : HelpTopic → String
  | .program => "wsbar [OPTIONS] <COMMAND>"
  | .validate => "wsbar validate"
  | .rewrite => "wsbar rewrite <CLASS> [TITLE]"
  | .workspaces => "wsbar workspaces [OPTIONS]"
  | .focus => "wsbar focus <NAME>"
  | .help => "wsbar help [COMMAND]..."

/-- The row for the option that asks for help. -/
def helpRow : String × String := ("-h, --help", "Print help")

/-- What can be said behind a topic. -/
def details : HelpTopic → List String
  | .program =>
    table "Commands"
      [("validate", purpose .validate), ("rewrite", purpose .rewrite),
        ("workspaces", purpose .workspaces), ("focus", purpose .focus), ("help", purpose .help)] ++
    table "Options"
      [("-c, --config <CONFIG>",
          "Path to configuration file [default: " ++ defaultConfigPath ++ "]"),
        ("    --log-level <LOG_LEVEL>",
          "Log level (trace, debug, info, warn, error); RUST_LOG takes precedence [default: " ++
            defaultLogLevel ++ "]"),
        helpRow, ("-V, --version", "Print version")]
  | .validate => table "Options" [helpRow]
  | .rewrite =>
    table "Arguments" [("<CLASS>", "Window class"), ("[TITLE]", "Window title")] ++
    table "Options" [helpRow]
  | .workspaces =>
    table "Options" [("    --json", "Print JSON instead of a table"), helpRow]
  | .focus =>
    table "Arguments" [("<NAME>", "Workspace name, e.g. `3`, `web` or `special:magic`")] ++
    table "Options" [helpRow]
  | .help => table "Arguments" [("[COMMAND]...", "Print help for the subcommand(s)")]

/-- The help on a topic. -/
def text (topic : HelpTopic) : String :=
  Text.join "\n" ([topic.purpose, "", "Usage: " ++ topic.usage] ++ topic.details) ++ "\n"

end HelpTopic

end Deskbar
