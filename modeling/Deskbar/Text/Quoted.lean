/-
This file writes a text between double quotes so that every character of it can be told
apart on one line. Quotes and backslashes get a backslash in front, the tab and the line
ends and the null character have short names, and a character that cannot be shown on its
own is written by its code point.
-/

import Deskbar.Text.Numeral
import Deskbar.Unicode.Graphic

namespace Deskbar.Text

/-- How one character is written between quotes. -/
def quotedChar (c : Char) : List Char :=
  match c with
  | '"' => ['\\', '"']
  | '\\' => ['\\', '\\']
  | '\n' => ['\\', 'n']
  | '\r' => ['\\', 'r']
  | '\t' => ['\\', 't']
  | '\x00' => ['\\', '0']
  | _ => if Unicode.isGraphic c then [c] else ['\\', 'u', '{'] ++ hexDigits c.toNat ++ ['}']

/-- A text between double quotes. -/
def quoted (text : String) : String :=
  String.ofList (['"'] ++ text.toList.flatMap quotedChar ++ ['"'])

end Deskbar.Text
