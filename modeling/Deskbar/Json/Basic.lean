/-
This file holds documents in JavaScript object notation as values: the form in which the
compositor answers queries and in which the list of buttons is written out. A whole
number keeps apart from one with a fraction or an exponent, since the fields of a report
take whole numbers only.
-/

import Deskbar.Binary64

namespace Deskbar

/-- A number as a document writes it. -/
inductive Json.Number where
  | whole (value : Int)
  | real (value : Binary64)
  deriving DecidableEq, Inhabited

/-- A document. The members of an object have different names and keep their order. -/
inductive Json where
  | null
  | bool (value : Bool)
  | number (value : Json.Number)
  | string (text : String)
  | array (elements : List Json)
  | object (members : List (String × Json))
  deriving Inhabited

namespace Json

/-- A whole number as a document. -/
def whole (value : Int) : Json := .number (.whole value)

/-- A text, or nothing, as a document. -/
def text? : Option String → Json
  | some text => .string text
  | none => .null

/-- A list of texts as a document. -/
def texts (list : List String) : Json := .array (list.map .string)

/-- The value a list of members gives to a name. -/
def memberOf (members : List (String × Json)) (name : String) : Option Json :=
  (members.find? fun member => member.1 = name).map Prod.snd

/-- The members with a name bound to a value, in the name's old place if it had one. -/
def bind (name : String) (value : Json) : List (String × Json) → List (String × Json)
  | [] => [(name, value)]
  | member :: rest =>
    if member.1 = name then (name, value) :: rest else member :: bind name value rest

end Json

end Deskbar
