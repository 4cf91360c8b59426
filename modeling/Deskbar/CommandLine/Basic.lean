/-
This file reads command lines. Options of the program come before the command and options
of a command behind it. An option that takes a value takes it from its own word or from
the next one, and may be given once; a word of two dashes ends the options. A request for
help or for the version is answered as soon as it is read, unless something before it was
wrong. Whether an option with its value in the next word may stand shows only at the next
option or at the end, so help that a command is asked for comes first.
-/

import Deskbar.Text.Pieces

namespace Deskbar

/-- What the program is asked to do. -/
inductive Command where
  | validate
  | rewrite (windowClass title : String)
  | workspaces (asDocument : Bool)
  | focus (name : String)
  deriving DecidableEq, Inhabited

/-- What help is there for. -/
inductive HelpTopic where
  | program
  | validate
  | rewrite
  | workspaces
  | focus
  | help
  deriving DecidableEq, Inhabited

/-- The options of the program. -/
structure ProgramOptions where
  config : Option String := none
  logLevel : Option String := none
  deriving DecidableEq, Inhabited

/-- What a command line says. -/
inductive CommandLine where
  | run (options : ProgramOptions) (command : Command)
  | showHelp (topic : HelpTopic)
  | showVersion
  /-- The command line is none. -/
  | misuse
  deriving DecidableEq, Inhabited

namespace CommandLine

/-- What a word is, before it is known who reads it. -/
inductive Word where
  /-- Two dashes, a name, and perhaps a value behind an equals sign. -/
  | long (name : List Char) (value : Option (List Char))
  /-- A dash and a row of letters. -/
  | short (letters : List Char)
  /-- Two dashes alone. -/
  | separator
  | plain (text : String)
  deriving DecidableEq

/-- Classifies a word. -/
def Word.ofText (text : String) : Word :=
  match text.toList with
  | ['-', '-'] => .separator
  | '-' :: '-' :: rest =>
    match Text.cutAtFirst ['='] rest with
    | some (name, value) => .long name (some value)
    | none => .long rest none
  | '-' :: c :: rest => .short (c :: rest)
  | _ => .plain text

/-- The command that a word is. -/
def topicOf? : String → Option HelpTopic
  | "validate" => some .validate
  | "rewrite" => some .rewrite
  | "workspaces" => some .workspaces
  | "focus" => some .focus
  | "help" => some .help
  | _ => none

/-! ### Words behind a command -/

/-- What the words behind a command say. -/
structure Tail where
  asDocument : Bool := false
  values : List String := []
  /-- Whether the options have ended. -/
  ended : Bool := false

/-- How many values a command takes at most. -/
def maxValues : HelpTopic → Nat
  | .rewrite => 2
  | .focus => 1
  | _ => 0

/-- The command with the words behind it. -/
def command? (topic : HelpTopic) (tail : Tail) : Option Command :=
  match topic, tail.values with
  | .validate, [] => some .validate
  | .rewrite, [windowClass] => some (.rewrite windowClass "")
  | .rewrite, [windowClass, title] => some (.rewrite windowClass title)
  | .workspaces, [] => some (.workspaces tail.asDocument)
  | .focus, [name] => some (.focus name)
  | _, _ => none

/-- Reads the words behind a command. There are no options if those before it cannot stand. -/
def readTail (options : Option ProgramOptions) (topic : HelpTopic) (tail : Tail) :
    List String → CommandLine
  | [] =>
    match options, command? topic tail with
    | some options, some command => .run options command
    | _, _ => .misuse
  | text :: rest =>
    match if tail.ended then Word.plain text else Word.ofText text with
    | .plain text =>
      if tail.values.length < maxValues topic then
        readTail options topic { tail with values := tail.values ++ [text] } rest
      else .misuse
    | .separator => readTail options topic { tail with ended := true } rest
    | .long name value =>
      if value.isSome then .misuse
      else if name = "help".toList then .showHelp topic
      else if name = "json".toList ∧ topic = .workspaces ∧ !tail.asDocument then
        readTail options topic { tail with asDocument := true } rest
      else .misuse
    | .short letters => if letters.head? = some 'h' then .showHelp topic else .misuse

/-- Reads the words behind a request for help on a command. -/
def readHelp : List String → CommandLine
  | [] => .showHelp .program
  | [text] =>
    match topicOf? text with
    | some topic => .showHelp topic
    | none => .misuse
  | _ => .misuse

/-! ### Words before a command -/

/-- The options that take a value. -/
inductive ValueOption where
  | config
  | logLevel
  deriving DecidableEq

/-- The option with a name. -/
def ValueOption.named? (name : List Char) : Option ValueOption :=
  if name = "config".toList then some .config
  else if name = "log-level".toList then some .logLevel
  else none

/-- The options with a value set, if it was not set before. -/
def setOption? (options : ProgramOptions) (option : ValueOption) (value : String) :
    Option ProgramOptions :=
  match option, options.config, options.logLevel with
  | .config, none, _ => some { options with config := some value }
  | .logLevel, _, none => some { options with logLevel := some value }
  | _, _, _ => none

/-- The option that was read last, if its value is not in the same word. -/
inductive Pending where
  | nothing
  /-- The value is in the next word. -/
  | open_ (option : ValueOption)
  | filled (option : ValueOption) (value : String)

/-- The options with the one that was read last. -/
def settle? (options : ProgramOptions) : Pending → Option ProgramOptions
  | .nothing => some options
  | .open_ _ => none
  | .filled option value => setOption? options option value

/-- What a row of letters says: the value of the configuration option in the rest of the row, or
that it is in the next word, or something that ends the reading. -/
inductive Letters where
  | value (text : String)
  | valueFollows
  | done (answer : CommandLine)

/-- Reads a row of letters. -/
def readLetters : List Char → Letters
  | ['c'] => .valueFollows
  | 'c' :: '=' :: rest => .value (String.ofList rest)
  | 'c' :: rest => .value (String.ofList rest)
  | 'h' :: _ => .done (.showHelp .program)
  | 'V' :: _ => .done .showVersion
  | _ => .done .misuse

/-- Reads the words before a command. -/
def readWords (options : ProgramOptions) (pending : Pending) : List String → CommandLine
  | [] => .misuse
  | text :: rest =>
    match pending, Word.ofText text with
    | .open_ option, .plain value => readWords options (.filled option value) rest
    | pending, .plain text =>
      match topicOf? text with
      | some .help => readHelp rest
      | some topic => readTail (settle? options pending) topic {} rest
      | none => .misuse
    | pending, word =>
      match settle? options pending, word with
      | some options, .long name value =>
        match ValueOption.named? name, value with
        | some option, some value =>
          match setOption? options option (String.ofList value) with
          | some options => readWords options .nothing rest
          | none => .misuse
        | some option, none => readWords options (.open_ option) rest
        | none, some _ => .misuse
        | none, none =>
          if name = "help".toList then .showHelp .program
          else if name = "version".toList then .showVersion
          else .misuse
      | some options, .short letters =>
        match readLetters letters with
        | .value value =>
          match setOption? options .config value with
          | some options => readWords options .nothing rest
          | none => .misuse
        | .valueFollows => readWords options (.open_ .config) rest
        | .done answer => answer
      | _, _ => .misuse

/-- Reads a command line. -/
def ofWords (words : List String) : CommandLine := readWords {} .nothing words

end CommandLine

end Deskbar
