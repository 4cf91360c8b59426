/-
This file shows that a text which is written in UTF-8 is read again as the same text. The first byte
of a character says how many follow and holds the upper bits of its code point, and each of the
others holds six bits more. The narrower ranges that the second byte has behind some first bytes
leave out nothing that a character needs.
-/

import Deskbar.Proofs.ByteOrder
import Deskbar.Text.Utf8

namespace Deskbar.Text.Utf8

/-- The last bytes of a character complete the bits of its code point. -/
theorem pieces_continuation {code lowest highest : Nat} (count : Nat) (rest : List UInt8)
    (least : lowest ≤ code / 64 ^ count % 64 + 128)
    (most : code / 64 ^ count % 64 + 128 ≤ highest) :
    pieces (some ⟨code / 64 ^ (count + 1), count + 1, lowest, highest⟩)
      (continuation code (count + 1) ++ rest) = some (Char.ofNat code) :: pieces none rest := by
  have byte : ∀ bits, (UInt8.ofNat (bits % 64 + 128)).toNat = bits % 64 + 128 := fun bits => by
    rw [UInt8.toNat_ofNat']
    omega
  induction count generalizing lowest highest with
  | zero =>
    have whole : 0x40 * (code / 64 ^ (0 + 1)) + (code / 64 ^ 0 % 64 + 128) % 0x40 = code := by
      omega
    rw [continuation, List.cons_append, pieces, byte, if_pos ⟨least, most⟩]
    simp only [whole]
    rfl
  | succ count inductionHypothesis =>
    have joined : 0x40 * (code / 64 ^ (count + 1 + 1)) +
        (code / 64 ^ (count + 1) % 64 + 128) % 0x40 = code / 64 ^ (count + 1) := by
      rw [Nat.pow_succ 64 (count + 1), ← Nat.div_div_eq_div_mul]
      omega
    rw [continuation, List.cons_append, pieces, byte, if_pos ⟨least, most⟩]
    simp only [joined, Nat.add_eq_right, Nat.add_one_ne_zero, if_false, Nat.add_sub_cancel]
    exact inductionHypothesis (by omega) (by omega)

theorem toNat_ofNat {value : Nat} (small : value < 0x100) : (UInt8.ofNat value).toNat = value := by
  rw [UInt8.toNat_ofNat']
  omega

theorem opening_one {value : Nat} (most : value < 0x80) :
    opening (UInt8.ofNat value) = .complete (Char.ofNat value) := by
  rw [opening, toNat_ofNat (by omega), if_pos most]

theorem opening_two {value : Nat} (least : 0xC2 ≤ value) (most : value < 0xE0) :
    opening (UInt8.ofNat value) = .begun ⟨value % 0x20, 1, 0x80, 0xBF⟩ := by
  rw [opening, toNat_ofNat (by omega), if_neg (by omega), if_neg (by omega), if_pos most]

theorem opening_three {value : Nat} (least : 0xE0 ≤ value) (most : value < 0xF0) :
    opening (UInt8.ofNat value) = .begun ⟨value % 0x10, 2, if value = 0xE0 then 0xA0 else 0x80,
      if value = 0xED then 0x9F else 0xBF⟩ := by
  rw [opening, toNat_ofNat (by omega), if_neg (by omega), if_neg (by omega), if_neg (by omega)]
  by_cases first : value = 0xE0
  · simp [first]
  · by_cases last : value = 0xED
    · simp [last]
    · simp [first, last, most]

theorem opening_four {value : Nat} (least : 0xF0 ≤ value) (most : value < 0xF5) :
    opening (UInt8.ofNat value) = .begun ⟨value % 0x08, 3, if value = 0xF0 then 0x90 else 0x80,
      if value = 0xF4 then 0x8F else 0xBF⟩ := by
  rw [opening, toNat_ofNat (by omega), if_neg (by omega), if_neg (by omega), if_neg (by omega),
    if_neg (by omega), if_neg (by omega), if_neg (by omega)]
  by_cases first : value = 0xF0
  · simp [first]
  · by_cases last : value = 0xF4
    · simp [last]
    · have within : value < 0xF4 := by omega
      simp [first, last, within]

/-- The second byte of a character is in the range that its first byte leaves for it. -/
theorem exists_opening_begun {c : Char} {count offset : Nat}
    (range : count = 0 ∧ offset = 0xC0 ∧ 0x80 ≤ c.toNat ∧ c.toNat < 0x800 ∨
      count = 1 ∧ offset = 0xE0 ∧ 0x800 ≤ c.toNat ∧ c.toNat < 0x10000 ∨
      count = 2 ∧ offset = 0xF0 ∧ 0x10000 ≤ c.toNat ∧ c.toNat < 0x110000) :
    ∃ lowest highest, opening (UInt8.ofNat (c.toNat / 64 ^ (count + 1) + offset)) =
        .begun ⟨c.toNat / 64 ^ (count + 1), count + 1, lowest, highest⟩ ∧
      lowest ≤ c.toNat / 64 ^ count % 64 + 128 ∧ c.toNat / 64 ^ count % 64 + 128 ≤ highest := by
  have noSurrogate : c.toNat < 0xD800 ∨ 0xDFFF < c.toNat := c.valid.imp id And.left
  rcases range with ⟨rfl, rfl, range⟩ | ⟨rfl, rfl, range⟩ | ⟨rfl, rfl, range⟩
  · have bits : (c.toNat / 64 ^ (0 + 1) + 0xC0) % 0x20 = c.toNat / 64 ^ (0 + 1) := by omega
    refine ⟨_, _, (opening_two (by omega) (by omega)).trans (by rw [bits]), ?_, ?_⟩ <;> omega
  · have bits : (c.toNat / 64 ^ (1 + 1) + 0xE0) % 0x10 = c.toNat / 64 ^ (1 + 1) := by omega
    refine ⟨_, _, (opening_three (by omega) (by omega)).trans (by rw [bits]), ?_, ?_⟩ <;>
      split <;> omega
  · have bits : (c.toNat / 64 ^ (2 + 1) + 0xF0) % 0x08 = c.toNat / 64 ^ (2 + 1) := by omega
    refine ⟨_, _, (opening_four (by omega) (by omega)).trans (by rw [bits]), ?_, ?_⟩ <;>
      split <;> omega

/-- A character that has been written is read first, whatever follows it. -/
theorem pieces_utf8EncodeChar (c : Char) (rest : List UInt8) :
    pieces none (String.utf8EncodeChar c ++ rest) = some c :: pieces none rest := by
  obtain ⟨count, offset, encoded, range⟩ := utf8EncodeChar_eq c
  rw [encoded, List.cons_append, pieces]
  cases count with
  | zero =>
    have small : offset = 0 ∧ c.toNat < 0x80 := by omega
    rw [Nat.pow_zero, Nat.div_one, small.1, Nat.add_zero, opening_one small.2, Char.ofNat_toNat]
    rfl
  | succ count =>
    have following : count = 0 ∧ offset = 0xC0 ∧ 0x80 ≤ c.toNat ∧ c.toNat < 0x800 ∨
        count = 1 ∧ offset = 0xE0 ∧ 0x800 ≤ c.toNat ∧ c.toNat < 0x10000 ∨
        count = 2 ∧ offset = 0xF0 ∧ 0x10000 ≤ c.toNat ∧ c.toNat < 0x110000 := by omega
    obtain ⟨lowest, highest, begun, least, most⟩ := exists_opening_begun following
    rw [begun]
    exact (pieces_continuation count rest least most).trans (by rw [Char.ofNat_toNat])

theorem pieces_flatMap_utf8EncodeChar (text : List Char) :
    pieces none (text.flatMap String.utf8EncodeChar) = text.map some := by
  induction text with
  | nil => rfl
  | cons c rest inductionHypothesis =>
    rw [List.flatMap_cons, pieces_utf8EncodeChar, inductionHypothesis, List.map_cons]

/-- The bytes of a text are read as the text. -/
theorem decodeLossy_bytes (text : String) : decodeLossy (bytes text) = text := by
  rw [decodeLossy, bytes_eq, pieces_flatMap_utf8EncodeChar, List.map_map]
  exact (congrArg String.ofList (List.map_id _)).trans String.ofList_toList

end Deskbar.Text.Utf8
