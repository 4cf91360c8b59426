/-
This file finds the set of characters that the name of a property stands for. What stands by itself
names something that characters are or are not, a category or a script; a category or a script may
also be given as a value. Names are compared without case, blanks, dashes and underscores.

Patterns of other engines also know when a character came into the standard, all the scripts that
use it, and how text is divided around it. No such property is known here.
-/

import Deskbar.Text.Pieces
import Deskbar.Unicode.Property
import Deskbar.Unicode.Script

namespace Deskbar.Pattern

open Unicode

/-- A name in the form in which it is looked up. The word `is` in front of it counts for nothing,
except in `isc`, which does not stand for `c`. -/
def plainName (name : List Char) : String :=
  let behind :=
    match name with
    | first :: second :: rest =>
      if first.toLower = 'i' && second.toLower = 's' then rest else name
    | _ => name
  let isKept (c : Char) := c.toNat < 0x80 && c ≠ '-' && c ≠ '_' && c ≠ ' '
  let plain := (behind.filter isKept).map Char.toLower
  if plain = ['c'] && behind.length < name.length then "isc" else String.ofList plain

/-- The set that a name stands for by itself. -/
def setNamed? (name : String) : Option CharSet :=
  (NamedSet.find? properties name).or
    ((NamedSet.find? categories name).or (NamedSet.find? scripts name))

/-- The characters that have a property with a value. -/
def setWithValue? (property value : String) : Option CharSet :=
  match property with
  | "gc" | "generalcategory" => NamedSet.find? categories value
  | "sc" | "script" => NamedSet.find? scripts value
  | _ => none

/-- The set of the property that is written between braces, and whether all but this set is
meant. -/
def readPropertyName (text : List Char) : Option (CharSet × Bool) :=
  match Text.cutAtFirst ['!', '='] text with
  | some (property, value) => (setWithValue? (plainName property) (plainName value)).map (·, true)
  | none =>
    match (Text.cutAtFirst [':'] text).or (Text.cutAtFirst ['='] text) with
    | some (property, value) =>
      (setWithValue? (plainName property) (plainName value)).map (·, false)
    | none => (setNamed? (plainName text)).map (·, false)

end Deskbar.Pattern
