/-
This file shows that texts are in the order of their bytes. Texts are compared character by
character, and characters by their code points. In UTF-8 the greater of two characters has more
bytes, and a greater first byte with them, or it has as many and the first byte that differs is
greater. So it makes no difference whether the characters or the bytes are compared.
-/

import Mathlib.Data.String.Basic

namespace Deskbar.Text

/-- The bytes of a text. -/
def bytes (text : String) : List UInt8 := text.toByteArray.data.toList

theorem bytes_eq (text : String) : bytes text = text.toList.flatMap String.utf8EncodeChar := by
  rw [bytes, ← String.utf8Encode_toList, List.utf8Encode, List.toList_data_toByteArray]

/-! ### The bytes of a character -/

/-- The last bytes of a character, which hold six bits each, for its code point. -/
def continuation (code : Nat) : Nat → List UInt8
  | 0 => []
  | count + 1 => UInt8.ofNat (code / 64 ^ count % 64 + 128) :: continuation code count

/-- The first byte of a character says how many follow, and it is greater the more there are. -/
theorem utf8EncodeChar_eq (c : Char) :
    ∃ count offset, String.utf8EncodeChar c =
        UInt8.ofNat (c.toNat / 64 ^ count + offset) :: continuation c.toNat count ∧
      (count = 0 ∧ offset = 0 ∧ c.toNat < 0x80 ∨
        count = 1 ∧ offset = 0xC0 ∧ 0x80 ≤ c.toNat ∧ c.toNat < 0x800 ∨
        count = 2 ∧ offset = 0xE0 ∧ 0x800 ≤ c.toNat ∧ c.toNat < 0x10000 ∨
        count = 3 ∧ offset = 0xF0 ∧ 0x10000 ≤ c.toNat ∧ c.toNat < 0x110000) := by
  have code : c.toNat < 0x110000 := by
    rcases c.valid with small | ⟨-, large⟩
    · exact Nat.lt_trans small (by decide)
    · exact large
  have value : c.val.toNat = c.toNat := rfl
  rw [String.utf8EncodeChar, value]
  split
  · exact ⟨0, 0, by simp [continuation], by omega⟩
  · split
    · have first : c.toNat / 64 % 32 = c.toNat / 64 := by omega
      exact ⟨1, 0xC0, by simp [continuation, first], by omega⟩
    · split
      · have first : c.toNat / 4096 % 16 = c.toNat / 4096 := by omega
        exact ⟨2, 0xE0, by simp [continuation, first], by omega⟩
      · have first : c.toNat / 262144 % 8 = c.toNat / 262144 := by omega
        exact ⟨3, 0xF0, by simp [continuation, first], by omega⟩

/-- Where two code points agree in their higher bits, the greater one has the greater bytes. -/
theorem continuation_append_lt {first second : Nat} (less : first < second) (count : Nat)
    (same : first / 64 ^ count = second / 64 ^ count) (firstRest secondRest : List UInt8) :
    continuation first count ++ firstRest < continuation second count ++ secondRest := by
  induction count with
  | zero =>
    rw [Nat.pow_zero, Nat.div_one, Nat.div_one] at same
    exact absurd less (same ▸ Nat.lt_irrefl _)
  | succ count inductionHypothesis =>
    rw [continuation, continuation, List.cons_append, List.cons_append, List.cons_lt_cons_iff]
    rw [Nat.pow_succ, ← Nat.div_div_eq_div_mul, ← Nat.div_div_eq_div_mul] at same
    have ordered : first / 64 ^ count ≤ second / 64 ^ count :=
      Nat.div_le_div_right (Nat.le_of_lt less)
    rcases Nat.eq_or_lt_of_le ordered with alike | apart
    · rw [alike]
      exact Or.inr ⟨rfl, inductionHypothesis alike⟩
    · left
      rw [UInt8.lt_iff_toNat_lt, UInt8.toNat_ofNat', UInt8.toNat_ofNat']
      omega

/-- The greater of two characters has the greater bytes, and the bytes differ before either of them
ends. -/
theorem utf8EncodeChar_append_lt {first second : Char} (less : first < second)
    (firstRest secondRest : List UInt8) :
    String.utf8EncodeChar first ++ firstRest < String.utf8EncodeChar second ++ secondRest := by
  have codes : first.toNat < second.toNat := less
  obtain ⟨count, offset, encoded, range⟩ := utf8EncodeChar_eq first
  obtain ⟨countToo, offsetToo, encodedToo, rangeToo⟩ := utf8EncodeChar_eq second
  rw [encoded, encodedToo, List.cons_append, List.cons_append, List.cons_lt_cons_iff]
  by_cases sameCount : count = countToo
  · subst sameCount
    have sameOffset : offset = offsetToo := by omega
    subst sameOffset
    have ordered : first.toNat / 64 ^ count ≤ second.toNat / 64 ^ count :=
      Nat.div_le_div_right (Nat.le_of_lt codes)
    rcases Nat.eq_or_lt_of_le ordered with alike | apart
    · exact Or.inr ⟨by rw [alike], continuation_append_lt codes count alike _ _⟩
    · left
      rw [UInt8.lt_iff_toNat_lt, UInt8.toNat_ofNat', UInt8.toNat_ofNat']
      rcases range with ⟨rfl, rfl, -⟩ | ⟨rfl, rfl, -⟩ | ⟨rfl, rfl, -⟩ | ⟨rfl, rfl, -⟩ <;> omega
  · -- A character with fewer bytes has the smaller first byte, whatever the characters are.
    left
    rw [UInt8.lt_iff_toNat_lt, UInt8.toNat_ofNat', UInt8.toNat_ofNat']
    rcases range with ⟨rfl, rfl, range⟩ | ⟨rfl, rfl, range⟩ | ⟨rfl, rfl, range⟩ |
        ⟨rfl, rfl, range⟩ <;>
      rcases rangeToo with ⟨rfl, rfl, rangeToo⟩ | ⟨rfl, rfl, rangeToo⟩ |
        ⟨rfl, rfl, rangeToo⟩ | ⟨rfl, rfl, rangeToo⟩ <;> omega

/-! ### The bytes of a text -/

theorem flatMap_utf8EncodeChar_lt {first second : List Char} (less : first < second) :
    first.flatMap String.utf8EncodeChar < second.flatMap String.utf8EncodeChar := by
  induction less with
  | @nil c rest =>
    obtain ⟨count, offset, encoded, -⟩ := utf8EncodeChar_eq c
    rw [List.flatMap_nil, List.flatMap_cons, encoded]
    exact List.nil_lt_cons ..
  | cons less inductionHypothesis => exact List.append_left_lt inductionHypothesis
  | rel less => exact utf8EncodeChar_append_lt less _ _

theorem bytes_lt_of_lt {first second : String} (less : first < second) :
    bytes first < bytes second := by
  rw [bytes_eq, bytes_eq]
  exact flatMap_utf8EncodeChar_lt (String.lt_iff_toList_lt.mp less)

/-- Of two texts the one with the smaller bytes is the smaller one. -/
theorem bytes_lt_iff {first second : String} : bytes first < bytes second ↔ first < second := by
  refine ⟨fun less => ?_, bytes_lt_of_lt⟩
  rcases lt_trichotomy first second with before | rfl | after
  · exact before
  · exact absurd less (List.lt_irrefl _)
  · exact absurd less (List.lt_asymm (bytes_lt_of_lt after))

theorem bytes_injective : Function.Injective bytes := by
  intro first second same
  rcases lt_trichotomy first second with before | alike | after
  · exact absurd (same ▸ bytes_lt_of_lt before) (List.lt_irrefl _)
  · exact alike
  · exact absurd (same ▸ bytes_lt_of_lt after) (List.lt_irrefl _)

end Deskbar.Text
