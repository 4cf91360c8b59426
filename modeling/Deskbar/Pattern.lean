/-
This file says what patterns are good for. A text is searched for a match of a pattern, and a match
makes a text of a template. What makes patterns of texts is an engine; whoever uses patterns can do
so with any engine, and finds out nothing else about it.
-/

import Deskbar.Pattern.Template

namespace Deskbar

/-- What the groups of a match matched. A group that took no part or does not exist matched
nothing. -/
structure Pattern.Groups where
  numbered : Nat → List Char
  named : String → List Char

/-- A match of a pattern. -/
structure Captures where
  groups : Pattern.Groups
  /-- The text that a template becomes. -/
  expand : String → String

/-- A pattern that is ready to be searched for. -/
structure Pattern where
  /-- The text that the pattern was written as. -/
  source : String
  /-- Whether the pattern matches anywhere in a text. -/
  occursIn : String → Bool
  /-- The first match in a text. -/
  captures? : String → Option Captures

namespace Pattern

/-- What makes patterns of texts. A text that is no pattern does not become one. -/
class Engine where
  compile? : String → Option Pattern

namespace Groups

/-- The groups of a match without any. -/
def empty : Groups := ⟨fun _ => [], fun _ => []⟩

/-- What a piece of a template stands for. -/
def fillPart (groups : Groups) : TemplatePart → List Char
  | .literal c => [c]
  | .numbered index => groups.numbered index
  | .named name => groups.named name

/-- A template with its references replaced by what the groups matched. -/
def expand (groups : Groups) (template : String) : String :=
  String.ofList ((templateParts template).flatMap groups.fillPart)

end Groups

end Pattern

end Deskbar
