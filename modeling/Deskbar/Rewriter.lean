/-
This file turns windows into the texts shown for them. Every rule has a pattern and a
template. The rules are tried from the greatest priority down, and of one priority in the
order they were declared; the first one whose pattern matches gives the text. Rules whose
pattern is not one to the engine are left out.
-/

import Deskbar.Config.Basic
import Deskbar.Pattern
import Deskbar.Sorting

namespace Deskbar

/-- A rule that is ready to be tried. -/
structure Rewriter.Rule where
  pattern : Pattern
  template : String
  priority : Int

/-- Rules in the order in which they are tried, and the text for what none of them matches. -/
structure Rewriter where
  rules : List Rewriter.Rule
  fallback : String

/-- The text for an input, and whether a rule gave it. -/
structure Rewriter.Outcome where
  text : String
  matched : Bool
  deriving DecidableEq, Inhabited

namespace Rewriter

/-- The priority of a rule about windows by the parts of a window its pattern is about. -/
def priorityByParts (pattern : String) : Int :=
  let aboutClass := Text.occurs "class".toList pattern.toList
  let aboutTitle := Text.occurs "title".toList pattern.toList
  if aboutClass && aboutTitle then 3 else if aboutTitle then 2 else if aboutClass then 1 else 0

/-- A declared rule made ready. -/
def Rule.ofDeclared? [Pattern.Engine] (priority : String → Int) (declared : RewriteRule) :
    Option Rule :=
  (Pattern.Engine.compile? declared.pattern).map fun pattern =>
    ⟨pattern, declared.template, declared.priority.getD (priority declared.pattern)⟩

/-- The rules in the order in which they are tried, made of declared ones. -/
def ofRules [Pattern.Engine] (declared : List RewriteRule) (fallback : String)
    (priority : String → Int) : Rewriter :=
  ⟨sortBy (fun first second => compare second.priority first.priority)
    (declared.filterMap (Rule.ofDeclared? priority)), fallback⟩

/-- The rules about windows that a bar is configured with. -/
def ofConfig [Pattern.Engine] (config : BarConfig) : Rewriter :=
  ofRules config.rules config.fallback priorityByParts

/-- What a rule makes of an input that its pattern matches. -/
def Rule.apply? (rule : Rule) (input : String) : Option String :=
  (rule.pattern.captures? input).map fun captures => captures.expand rule.template

/-- The text for an input. -/
def resolve (rewriter : Rewriter) (input : String) : Outcome :=
  match rewriter.rules.findSome? fun rule => rule.apply? input with
  | some text => ⟨text, true⟩
  | none => ⟨rewriter.fallback, false⟩

/-- Whether a rule is about the titles of windows. -/
def readsTitle (rewriter : Rewriter) : Bool :=
  rewriter.rules.any fun rule => Text.occurs "title".toList rule.pattern.source.toList

/-- The input for a window. The title belongs to it only when a rule is about titles. -/
def windowInput (rewriter : Rewriter) (windowClass title : String) : String :=
  if rewriter.readsTitle then "class<" ++ windowClass ++ "> title<" ++ title ++ ">"
  else "class<" ++ windowClass ++ ">"

/-- The place of the class in the text for a window. -/
def classToken : String := "\x7bclass\x7d"

/-- The place of the title in the text for a window. -/
def titleToken : String := "\x7btitle\x7d"

/-- The text for a window: what the rules make of it, with the class and then the title put in
their places. -/
def windowText (rewriter : Rewriter) (windowClass title : String) : String :=
  let resolved := (rewriter.resolve (rewriter.windowInput windowClass title)).text
  let withClass := Text.replaceAll classToken.toList windowClass.toList resolved.toList
  String.ofList (Text.replaceAll titleToken.toList title.toList withClass)

end Rewriter

end Deskbar
