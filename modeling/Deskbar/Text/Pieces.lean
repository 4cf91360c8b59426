/-
This file cuts texts at separators and replaces parts of them. A cut is always made at
the separator that comes first (or last, where a name says so), the separator itself is
in neither part, and putting it back between the parts gives the text again.
-/

namespace Deskbar.Text

/-- What follows `lead` in `text`, when `text` starts with it. -/
def afterLead : List Char → List Char → Option (List Char)
  | [], text => some text
  | _ :: _, [] => none
  | c :: lead, d :: text => if c = d then afterLead lead text else none

/-- The parts of `text` before and after the first occurrence of `separator`. -/
def cutAtFirst (separator : List Char) : List Char → Option (List Char × List Char)
  | [] => if separator = [] then some ([], []) else none
  | c :: rest =>
    match afterLead separator (c :: rest) with
    | some after => some ([], after)
    | none => (cutAtFirst separator rest).map fun parts => (c :: parts.1, parts.2)

/-- The parts of `text` before and after the last `separator`. -/
def cutAtLast (separator : Char) : List Char → Option (List Char × List Char)
  | [] => none
  | c :: rest =>
    match cutAtLast separator rest with
    | some parts => some (c :: parts.1, parts.2)
    | none => if c = separator then some ([], rest) else none

/-- The pieces of `text` between separators. The last of at most `limit` pieces keeps the
separators that are left. -/
def pieces (separator : Char) (limit : Nat) : List Char → List (List Char)
  | [] => [[]]
  | c :: rest =>
    if c = separator ∧ 1 < limit then [] :: pieces separator (limit - 1) rest
    else
      match pieces separator limit rest with
      | first :: others => (c :: first) :: others
      | [] => [[c]]

/-- The lines of a text. A line ends with a line feed, which may follow a carriage return;
neither belongs to it. -/
def lines : List Char → List (List Char)
  | [] => []
  | '\r' :: '\n' :: rest => [] :: lines rest
  | '\n' :: rest => [] :: lines rest
  | c :: rest =>
    match lines rest with
    | [] => [[c]]
    | first :: others => (c :: first) :: others

/-- Replaces from left to right every occurrence of `target`, each looked for behind the one
before it. `skipped` characters at the front belong to an occurrence already replaced. -/
def replaceFrom (target replacement : List Char) : Nat → List Char → List Char
  | _, [] => []
  | skipped + 1, _ :: rest => replaceFrom target replacement skipped rest
  | 0, c :: rest =>
    if target.isPrefixOf (c :: rest) then
      replacement ++ replaceFrom target replacement (target.length - 1) rest
    else c :: replaceFrom target replacement 0 rest

/-- The text with every occurrence of the non-empty `target` replaced. -/
def replaceAll (target replacement text : List Char) : List Char :=
  replaceFrom target replacement 0 text

/-- Whether `part` occurs in `text`. -/
def occurs (part text : List Char) : Bool := (cutAtFirst part text).isSome

/-- The texts in order with `separator` between neighbours. -/
def join (separator : String) : List String → String
  | [] => ""
  | [text] => text
  | text :: rest => text ++ separator ++ join separator rest

end Deskbar.Text
