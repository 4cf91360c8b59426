/-
This file says why a configuration is refused, and in which words.
-/

import Deskbar.Config.Basic

namespace Deskbar

/-- What an option asks for. -/
inductive ExpectedValue where
  | text
  | truth
  | count
  | outputNames
  deriving DecidableEq

/-- The words for what an option asks for. -/
def ExpectedValue.words : ExpectedValue → String
  | .text => "a string"
  | .truth => "a boolean"
  | .count => "a non-negative integer"
  | .outputNames => "output names as strings"

/-- Why a configuration is refused. -/
inductive Config.Error where
  /-- The document does not follow the grammar. -/
  | malformed
  /-- A choice is none of those there are. -/
  | unknownChoice (choice : UnknownChoice)
  /-- The time between two refreshes is zero. -/
  | noRefreshInterval
  /-- An option has a value of the wrong kind. -/
  | wrongValue (option : String) (expected : ExpectedValue)
  /-- There is no such file. -/
  | notFound (path : String)
  /-- The file is not a text. -/
  | notText
  deriving DecidableEq

/-- The text that tells the user why a configuration is refused. -/
def Config.Error.message : Config.Error → String
  | .malformed => "Failed to parse KDL"
  | .unknownChoice choice => "Invalid configuration: " ++ choice.message
  | .noRefreshInterval =>
    "Invalid configuration: refresh-interval-ms must be greater than zero"
  | .wrongValue option expected =>
    "Invalid value for `" ++ option ++ "`: expected " ++ expected.words
  | .notFound path => "Config file not found: " ++ path
  | .notText => "IO error: stream did not contain valid UTF-8"

end Deskbar
