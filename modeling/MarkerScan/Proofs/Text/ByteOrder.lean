import Mathlib.Data.List.Lex
/-
  MarkerScan.Proofs.Text.ByteOrder — the order of texts by the bytes of their UTF-8 form.

  A character with a smaller code point has a form that comes first in the order of bytes,
  whatever follows (`lex_utf8_char`): of two forms of one length the first byte that is not
  the same decides, and a longer form starts with a greater byte. So texts that are ordered
  character by character are ordered byte by byte (`lex_utf8`).
-/

namespace MarkerScan.Text

/-- The bytes of the UTF-8 form of a text. -/
def utf8 (s : List Char) : List UInt8 := s.flatMap String.utf8EncodeChar

theorem utf8_cons (c : Char) (s : List Char) : utf8 (c :: s) = String.utf8EncodeChar c ++ utf8 s := rfl

theorem lex_byte_lt {a b : Nat} (hb : b < 256) (hab : a < b) (x y : List UInt8) :
    List.Lex (· < ·) (UInt8.ofNat a :: x) (UInt8.ofNat b :: y) := by
  refine .rel (UInt8.lt_iff_toNat_lt.mpr ?_)
  have ha : a < UInt8.size := Nat.lt_trans hab hb
  rw [UInt8.toNat_ofNat_of_lt' ha, UInt8.toNat_ofNat_of_lt' hb]
  exact hab

/-- What follows settles the order where the first bytes agree. -/
theorem lex_byte_le {a b : Nat} (hb : b < 256) (hab : a ≤ b) {x y : List UInt8}
    (h : a = b → List.Lex (· < ·) x y) : List.Lex (· < ·) (UInt8.ofNat a :: x) (UInt8.ofNat b :: y) := by
  by_cases e : a = b
  · subst e
    exact .cons (h rfl)
  · exact lex_byte_lt hb (by omega) x y

theorem toNat_lt_of_char (c : Char) : c.val.toNat < 0x110000 := by
  have h := c.valid
  simp only [UInt32.isValidChar, Nat.isValidChar] at h
  omega

theorem lex_utf8_char {a b : Char} (h : a < b) (x y : List UInt8) :
    List.Lex (· < ·) (String.utf8EncodeChar a ++ x) (String.utf8EncodeChar b ++ y) := by
  have hab : a.val.toNat < b.val.toNat := h
  have hb := toNat_lt_of_char b
  simp only [String.utf8EncodeChar]
  generalize a.val.toNat = m at *
  generalize b.val.toNat = n at *
  -- By the length of the second form; the first is as long, or starts with a smaller byte.
  by_cases h1 : n ≤ 0x7f
  · rw [if_pos h1, if_pos (by omega)]
    exact lex_byte_lt (by omega) hab _ _
  rw [if_neg h1]
  by_cases h2 : n ≤ 0x7ff
  · rw [if_pos h2]
    by_cases m1 : m ≤ 0x7f
    · rw [if_pos m1]
      exact lex_byte_lt (by omega) (by omega) _ _
    rw [if_neg m1, if_pos (by omega)]
    refine lex_byte_le (by omega) (by omega) fun e1 => ?_
    exact lex_byte_lt (by omega) (by omega) _ _
  rw [if_neg h2]
  by_cases m1 : m ≤ 0x7f
  · rw [if_pos m1]
    split <;> exact lex_byte_lt (by omega) (by omega) _ _
  rw [if_neg m1]
  by_cases m2 : m ≤ 0x7ff
  · rw [if_pos m2]
    split <;> exact lex_byte_lt (by omega) (by omega) _ _
  rw [if_neg m2]
  by_cases h3 : n ≤ 0xffff
  · rw [if_pos h3, if_pos (by omega)]
    refine lex_byte_le (by omega) (by omega) fun e1 => ?_
    refine lex_byte_le (by omega) (by omega) fun e2 => ?_
    exact lex_byte_lt (by omega) (by omega) _ _
  rw [if_neg h3]
  by_cases m3 : m ≤ 0xffff
  · rw [if_pos m3]
    exact lex_byte_lt (by omega) (by omega) _ _
  rw [if_neg m3]
  refine lex_byte_le (by omega) (by omega) fun e1 => ?_
  refine lex_byte_le (by omega) (by omega) fun e2 => ?_
  refine lex_byte_le (by omega) (by omega) fun e3 => ?_
  exact lex_byte_lt (by omega) (by omega) _ _

theorem utf8_cons_ne_nil (c : Char) (s : List Char) : ∃ b bs, utf8 (c :: s) = b :: bs := by
  have h : String.utf8EncodeChar c ≠ [] := by
    rw [← List.length_pos_iff, String.length_utf8EncodeChar]
    exact c.utf8Size_pos
  obtain ⟨b, bs, h⟩ := List.exists_cons_of_ne_nil h
  exact ⟨b, bs ++ utf8 s, by rw [utf8_cons, h]; rfl⟩

theorem lex_utf8 {s t : List Char} (h : List.Lex (· < ·) s t) : List.Lex (· < ·) (utf8 s) (utf8 t) := by
  induction h with
  | @nil c s =>
    obtain ⟨b, bs, h⟩ := utf8_cons_ne_nil c s
    rw [h]
    exact .nil
  | rel h => exact lex_utf8_char h _ _
  | cons _ ih => exact List.Lex.append_left _ ih _

end MarkerScan.Text
