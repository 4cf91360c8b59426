/-
This file decodes UTF-8, one byte at a time. Between characters the decoder waits for a
lead byte; inside one it knows how many bytes are still owed and which values the next
one may have. A byte that cannot go on closes the piece before it as unreadable and is
then read as a lead byte itself, so every unreadable piece is as long as it can be and
one bad byte never swallows a good character.
-/

namespace Deskbar.Text.Utf8

/-- A character begun: the bits read so far, how many bytes follow, and the range the next
byte has to lie in. -/
structure Partial where
  bits : Nat
  owed : Nat
  lowest : Nat
  highest : Nat

/-- What a lead byte opens. -/
inductive Opening where
  | complete (c : Char)
  | begun (character : Partial)
  | unreadable

/-- A lead byte says how long its character is. The second byte of some characters has a
narrower range, which leaves out overlong forms, surrogates and numbers that are too large. -/
def opening (byte : UInt8) : Opening :=
  let value := byte.toNat
  if value < 0x80 then .complete (Char.ofNat value)
  else if value < 0xC2 then .unreadable
  else if value < 0xE0 then .begun ⟨value % 0x20, 1, 0x80, 0xBF⟩
  else if value = 0xE0 then .begun ⟨value % 0x10, 2, 0xA0, 0xBF⟩
  else if value = 0xED then .begun ⟨value % 0x10, 2, 0x80, 0x9F⟩
  else if value < 0xF0 then .begun ⟨value % 0x10, 2, 0x80, 0xBF⟩
  else if value = 0xF0 then .begun ⟨value % 0x08, 3, 0x90, 0xBF⟩
  else if value < 0xF4 then .begun ⟨value % 0x08, 3, 0x80, 0xBF⟩
  else if value = 0xF4 then .begun ⟨value % 0x08, 3, 0x80, 0x8F⟩
  else .unreadable

/-- The characters of a byte sequence, `none` for every unreadable piece. -/
def pieces : Option Partial → List UInt8 → List (Option Char)
  | none, [] => []
  | some _, [] => [none]
  | none, byte :: rest =>
    match opening byte with
    | .complete c => some c :: pieces none rest
    | .begun character => pieces (some character) rest
    | .unreadable => none :: pieces none rest
  | some character, byte :: rest =>
    if character.lowest ≤ byte.toNat ∧ byte.toNat ≤ character.highest then
      let bits := 0x40 * character.bits + byte.toNat % 0x40
      if character.owed = 1 then some (Char.ofNat bits) :: pieces none rest
      else pieces (some ⟨bits, character.owed - 1, 0x80, 0xBF⟩) rest
    else
      match opening byte with
      | .complete c => none :: some c :: pieces none rest
      | .begun next => none :: pieces (some next) rest
      | .unreadable => none :: none :: pieces none rest

/-- The text of a byte sequence, with a replacement character for every unreadable piece. -/
def decodeLossy (bytes : List UInt8) : String :=
  String.ofList ((pieces none bytes).map fun piece => piece.getD '\uFFFD')

/-- The text of a byte sequence that is UTF-8 throughout. -/
def decode? (bytes : List UInt8) : Option String :=
  ((pieces none bytes).mapM id).map String.ofList

end Deskbar.Text.Utf8
