import MarkerScan.Proofs.Text.ByteOrder
import MarkerScan.Proofs.Text.Utf8
/-
  MarkerScan.Proofs.Text.Encoded — strict reading takes the bytes of a text, and no others.

  The bytes that a character is begun with, and the one that completes it, are the bytes of
  its form (`encode_of_code`), and every character that is no ASCII character is made so
  (`exists_of_char`). As long as there is no fault, the bytes taken are those of the text so
  far and of what is begun (`Clean`); and the bytes of a text are taken without a fault
  (`foldl_utf8`).

  Proved, over all bytes:
  - `decodeStrict_eq_ok_iff`: strict reading gives a text exactly when the bytes are the
    UTF-8 form of it.
  - `decodeStrict_of_valid`, `decodeStrict_of_invalid`: so it gives what reading with
    substitutes gives when the bytes are valid UTF-8, and a fault when they are not.
-/

namespace MarkerScan.Text.Utf8

/-! ## The form of a character -/

/-- The first byte of a character of several bytes tells how many they are, and holds its first bits. -/
theorem begin?_byte {x : UInt8} {g : Begun} (h : begin? x = some g) :
    (g.owed = 1 ∧ x.toNat = 0xC0 + g.bits ∧ 2 ≤ g.bits ∧ g.bits < 32 ∨
      g.owed = 2 ∧ x.toNat = 0xE0 + g.bits ∧ g.bits < 16 ∧ (g.bits = 0 → 0xA0 ≤ g.low.toNat) ∨
      g.owed = 3 ∧ x.toNat = 0xF0 + g.bits ∧ g.bits ≤ 4 ∧ (g.bits = 0 → 0x90 ≤ g.low.toNat)) ∧
    0x80 ≤ g.low.toNat ∧ g.high.toNat ≤ 0xBF := by
  unfold begin? at h
  simp only at h
  split_ifs at h <;> obtain rfl := Option.some.inj h <;> simp <;> omega

theorem ofNat_eq {n : Nat} {b : UInt8} (h : n = b.toNat) : UInt8.ofNat n = b := by rw [h, UInt8.ofNat_toNat]

/-- What is begun and the byte that completes it are the form of the character. -/
theorem encode_of_code {p : List UInt8} {g : Begun} {b : UInt8} (h : Begun.Of p g) (hb : g.Fits b) (ho : ¬ 1 < g.owed) :
    String.utf8EncodeChar (Char.ofNat (g.code b)) = p ++ [b] := by
  have value : (Char.ofNat (g.code b)).val.toNat = g.code b := (toNat_code (sound_of h) hb ho).1
  simp only [String.utf8EncodeChar, value]
  have fits := fits_iff.mp hb
  -- By the number of bytes; what may come second keeps the code point in the range of its form.
  cases h with
  | @first x _ hx =>
    have byte := begin?_byte hx
    unfold Begun.code
    rw [if_neg (by omega), if_pos (by omega), ofNat_eq (b := x) (by omega), ofNat_eq (b := b) (by omega)]
    rfl
  | @next q g y hq hy hoy =>
    have tail := tail_of_fits_next hb
    have fits := fits_iff.mp hy
    rw [owed_next] at ho
    rw [code_next]
    cases hq with
    | @first x _ hx =>
      have byte := begin?_byte hx
      unfold Begun.code
      rw [if_neg (by omega), if_neg (by omega), if_pos (by omega), ofNat_eq (b := x) (by omega),
        ofNat_eq (b := y) (by omega), ofNat_eq (b := b) (by omega)]
      rfl
    | @next q g z hq hz hoz =>
      have tail := tail_of_fits_next hy
      have fits := fits_iff.mp hz
      rw [owed_next] at ho hoy
      rw [code_next]
      cases hq with
      | @first x _ hx =>
        have byte := begin?_byte hx
        unfold Begun.code
        rw [if_neg (by omega), if_neg (by omega), if_neg (by omega), ofNat_eq (b := x) (by omega),
          ofNat_eq (b := z) (by omega), ofNat_eq (b := y) (by omega), ofNat_eq (b := b) (by omega)]
        rfl
      | @next q g w hq hw how =>
        -- At most three bytes are owed at first, so there is no fifth one.
        have := (sound_of hq).owed
        rw [owed_next] at hoy
        omega

/-- A first byte with these bits begins a character of so many more bytes. -/
theorem exists_begin? {x : UInt8} {k : Nat} :
    (x.toNat = 0xC0 + k → 2 ≤ k → k < 32 → ∃ g, begin? x = some g ∧ g.owed = 1 ∧ g.bits = k ∧ g.low.toNat = 0x80 ∧
      g.high.toNat = 0xBF) ∧
    (x.toNat = 0xE0 + k → k < 16 → ∃ g, begin? x = some g ∧ g.owed = 2 ∧ g.bits = k ∧
      (g.low.toNat = 0x80 ∨ k = 0 ∧ g.low.toNat = 0xA0) ∧ (g.high.toNat = 0xBF ∨ k = 13 ∧ g.high.toNat = 0x9F)) ∧
    (x.toNat = 0xF0 + k → k ≤ 4 → ∃ g, begin? x = some g ∧ g.owed = 3 ∧ g.bits = k ∧
      (g.low.toNat = 0x80 ∨ k = 0 ∧ g.low.toNat = 0x90) ∧ (g.high.toNat = 0xBF ∨ k = 4 ∧ g.high.toNat = 0x8F)) := by
  unfold begin?
  simp only
  refine ⟨fun hx _ _ => ?_, fun hx _ => ?_, fun hx _ => ?_⟩
  all_goals split_ifs <;> first | omega | exact ⟨_, rfl, by simp; omega⟩

theorem toNat_byte {n : Nat} (h : n < 256) : (UInt8.ofNat n).toNat = n := UInt8.toNat_ofNat_of_lt' h

/-- A byte that goes on with a character, with these bits. -/
def tail (n : Nat) : UInt8 := .ofNat (0x80 + n % 64)

theorem toNat_tail (n : Nat) : (tail n).toNat = 0x80 + n % 64 := by
  have small : 0x80 + n % 64 < 256 := by omega
  exact toNat_byte small

theorem code_tail (g : Begun) (n : Nat) : g.code (tail n) = g.bits * 64 + n % 64 := by
  have value := toNat_tail n
  unfold Begun.code
  omega

theorem bits_next (g : Begun) (b : UInt8) : (g.next b).bits = g.code b := rfl

theorem fits_tail {g : Begun} (n : Nat) (b : UInt8) : (g.next b).Fits (tail n) := by
  rw [fits_iff, toNat_tail]
  have low : (g.next b).low.toNat = 0x80 := rfl
  have high : (g.next b).high.toNat = 0xBF := rfl
  omega

/-- Every character that is no ASCII character comes of some bytes. -/
theorem exists_of_char (c : Char) (h : 0x80 ≤ c.toNat) :
    ∃ p g b, Begun.Of p g ∧ g.Fits b ∧ ¬ 1 < g.owed ∧ g.code b = c.toNat := by
  have valid : c.toNat < 0xD800 ∨ 0xDFFF < c.toNat ∧ c.toNat < 0x110000 := c.valid
  generalize c.toNat = n at *
  by_cases two : n ≤ 0x7FF
  · obtain ⟨g, hg, owed, bits, low, high⟩ := (exists_begin? (x := .ofNat (0xC0 + n / 64)) (k := n / 64)).1
      (toNat_byte (by omega)) (by omega) (by omega)
    refine ⟨_, g, tail n, .first hg, ?_, by omega, ?_⟩
    · rw [fits_iff, toNat_tail]
      omega
    · rw [code_tail]
      omega
  by_cases three : n ≤ 0xFFFF
  · obtain ⟨g, hg, owed, bits, low, high⟩ := (exists_begin? (x := .ofNat (0xE0 + n / 4096)) (k := n / 4096)).2.1
      (toNat_byte (by omega)) (by omega)
    have hf : g.Fits (tail (n / 64)) := by
      rw [fits_iff, toNat_tail]
      omega
    refine ⟨_, _, tail n, .next (.first hg) hf (by omega), fits_tail _ _, by rw [owed_next]; omega, ?_⟩
    rw [code_tail, bits_next, code_tail]
    omega
  · obtain ⟨g, hg, owed, bits, low, high⟩ := (exists_begin? (x := .ofNat (0xF0 + n / 262144)) (k := n / 262144)).2.2
      (toNat_byte (by omega)) (by omega)
    have hf : g.Fits (tail (n / 4096)) := by
      rw [fits_iff, toNat_tail]
      omega
    refine ⟨_, _, tail n, .next (.next (.first hg) hf (by omega)) (fits_tail (n / 64) _) (by rw [owed_next]; omega),
      fits_tail _ _, by rw [owed_next, owed_next]; omega, ?_⟩
    rw [code_tail, bits_next, code_tail, bits_next, code_tail]
    omega

theorem encode_ascii {b : UInt8} (hb : b < 0x80) : String.utf8EncodeChar (Char.ofNat b.toNat) = [b] := by
  have value : (Char.ofNat b.toNat).val.toNat = b.toNat := toNat_ofNat_ascii hb
  have small : b.toNat < 0x80 := UInt8.lt_iff_toNat_lt.mp hb
  simp only [String.utf8EncodeChar, value]
  rw [if_pos (by omega), UInt8.ofNat_toNat]

/-! ## Bytes without a fault -/

namespace Decoder

variable {d : Decoder} {b : UInt8} {p : List UInt8} {g : Begun}

/-- A byte where something is begun. -/
theorem step_of_begun (hg : d.begun = some g) (b : UInt8) :
    (g.Fits b ∧ 1 < g.owed ∧ d.step b = { d with begun := some (g.next b), taken := d.taken + 1 }) ∨
    (g.Fits b ∧ ¬ 1 < g.owed ∧ d.step b = { d.push (Char.ofNat (g.code b)) with taken := d.taken + 1 }) ∨
    ∃ fault, ¬ g.Fits b ∧ d.step b = (d.refuse fault).fresh b := by
  unfold step
  rw [hg]
  by_cases hb : g.Fits b
  · have fits : (decide (g.low ≤ b) && decide (b ≤ g.high)) = true := by simpa [Begun.Fits] using hb
    simp only [fits, if_true]
    by_cases ho : 1 < g.owed
    · rw [if_neg (Nat.not_le.mpr ho)]
      exact .inl ⟨hb, ho, rfl⟩
    · rw [if_pos (Nat.not_lt.mp ho)]
      exact .inr (.inl ⟨hb, ho, rfl⟩)
  · have misfit : ¬ (decide (g.low ≤ b) && decide (b ≤ g.high)) = true := by simpa [Begun.Fits] using hb
    simp only [misfit]
    exact .inr (.inr ⟨_, hb, rfl⟩)

theorem refuse_fault (d : Decoder) (fault : Fault) : (d.refuse fault).fault ≠ none := by
  unfold refuse
  cases d.fault <;> simp

theorem fresh_clean (h : (d.fresh b).fault = none) :
    d.fault = none ∧ (b < 0x80 ∧ (d.fresh b).decoded = Char.ofNat b.toNat :: d.decoded ∧ (d.fresh b).begun = none ∨
      ∃ g, begin? b = some g ∧ (d.fresh b).decoded = d.decoded ∧ (d.fresh b).begun = some g) := by
  unfold fresh at h ⊢
  by_cases hb : b < 0x80
  · rw [if_pos hb] at h ⊢
    exact ⟨h, .inl ⟨hb, rfl, rfl⟩⟩
  · rw [if_neg hb] at h ⊢
    cases hg : begin? b with
    | none =>
      rw [hg] at h
      exact absurd h (refuse_fault _ _)
    | some g =>
      rw [hg] at h
      exact ⟨h, .inr ⟨g, rfl, rfl, rfl⟩⟩

/-- A byte without a fault goes on with what is begun or completes it, and otherwise is an ASCII byte or begins
    something. -/
theorem step_clean (h : (d.step b).fault = none) :
    d.fault = none ∧
      ((∃ g, d.begun = some g ∧ g.Fits b ∧ 1 < g.owed ∧ (d.step b).decoded = d.decoded ∧
          (d.step b).begun = some (g.next b)) ∨
        (∃ g, d.begun = some g ∧ g.Fits b ∧ ¬ 1 < g.owed ∧ (d.step b).decoded = Char.ofNat (g.code b) :: d.decoded ∧
          (d.step b).begun = none) ∨
        d.begun = none ∧ (b < 0x80 ∧ (d.step b).decoded = Char.ofNat b.toNat :: d.decoded ∧ (d.step b).begun = none ∨
          ∃ g, begin? b = some g ∧ (d.step b).decoded = d.decoded ∧ (d.step b).begun = some g)) := by
  cases hg : d.begun with
  | none =>
    have afresh : d.step b = d.fresh b := by rw [step, hg]
    rw [afresh] at h ⊢
    obtain ⟨hd, hs⟩ := fresh_clean h
    exact ⟨hd, .inr (.inr ⟨rfl, hs⟩)⟩
  | some g =>
    rcases step_of_begun hg b with ⟨hb, ho, hs⟩ | ⟨hb, ho, hs⟩ | ⟨fault, -, hs⟩
    · rw [hs] at h ⊢
      exact ⟨h, .inl ⟨g, rfl, hb, ho, rfl, rfl⟩⟩
    · rw [hs] at h ⊢
      exact ⟨h, .inr (.inl ⟨g, rfl, hb, ho, rfl, rfl⟩)⟩
    · rw [hs] at h
      exact absurd (fresh_clean h).1 (refuse_fault d fault)

/-- What the bytes so far have given, as long as there is no fault. -/
def Clean (p : List UInt8) (d : Decoder) : Prop :=
  d.fault = none → ∃ q, p = utf8 d.decoded.reverse ++ q ∧
    (q = [] ∧ d.begun = none ∨ ∃ g, d.begun = some g ∧ Begun.Of q g)

theorem utf8_append (s t : List Char) : utf8 (s ++ t) = utf8 s ++ utf8 t := List.flatMap_append

theorem utf8_singleton (c : Char) : utf8 [c] = String.utf8EncodeChar c := List.flatMap_singleton _ _

theorem clean_step (h : Clean p d) (b : UInt8) : Clean (p ++ [b]) (d.step b) := by
  intro hf
  obtain ⟨hd, hs⟩ := step_clean hf
  obtain ⟨q, rfl, hq⟩ := h hd
  rcases hs with ⟨g, hg, hb, ho, hdec, hn⟩ | ⟨g, hg, hb, ho, hdec, hn⟩ | ⟨hg, ⟨hb, hdec, hn⟩ | ⟨g, hb, hdec, hn⟩⟩
  · rcases hq with ⟨-, hn'⟩ | ⟨g', hg', hq⟩
    · cases hg.symm.trans hn'
    · obtain rfl := Option.some.inj (hg.symm.trans hg')
      exact ⟨q ++ [b], by rw [hdec, List.append_assoc], .inr ⟨_, hn, .next hq hb ho⟩⟩
  · rcases hq with ⟨-, hn'⟩ | ⟨g', hg', hq⟩
    · cases hg.symm.trans hn'
    · obtain rfl := Option.some.inj (hg.symm.trans hg')
      refine ⟨[], ?_, .inl ⟨rfl, hn⟩⟩
      rw [hdec, List.reverse_cons, utf8_append, utf8_singleton, encode_of_code hq hb ho, List.append_nil,
        List.append_assoc]
  · rcases hq with ⟨rfl, -⟩ | ⟨g', hg', -⟩
    · refine ⟨[], ?_, .inl ⟨rfl, hn⟩⟩
      rw [hdec, List.reverse_cons, utf8_append, utf8_singleton, encode_ascii hb, List.append_nil, List.append_nil]
    · cases hg.symm.trans hg'
  · rcases hq with ⟨rfl, -⟩ | ⟨g', hg', -⟩
    · exact ⟨[b], by rw [hdec, List.append_nil], .inr ⟨g, hn, .first hb⟩⟩
    · cases hg.symm.trans hg'

theorem clean_foldl (h : Clean p d) (bytes : List UInt8) : Clean (p ++ bytes) (bytes.foldl step d) := by
  induction bytes generalizing p d with
  | nil => rwa [List.append_nil]
  | cons b bytes ih =>
    have := ih (clean_step h b)
    rwa [List.append_assoc] at this

/-- The text was read, and nothing else. -/
structure Reads (s : List Char) (d e : Decoder) : Prop where
  decoded : e.decoded = s.reverse ++ d.decoded
  begun : e.begun = none
  fault : e.fault = d.fault

/-- What begins a character is taken without a fault. -/
theorem foldl_of (h : Begun.Of p g) (hd : d.begun = none) :
    (p.foldl step d).decoded = d.decoded ∧ (p.foldl step d).begun = some g ∧ (p.foldl step d).fault = d.fault := by
  induction h with
  | @first b g hb =>
    have wide : ¬ b < 0x80 := fun hlt => by
      have byte := begin?_byte hb
      have := UInt8.lt_iff_toNat_lt.mp hlt
      have : (0x80 : UInt8).toNat = 0x80 := rfl
      omega
    have hs : d.step b = { d with begun := some g, taken := d.taken + 1 } := by
      simp only [step, hd, fresh, if_neg wide, hb]
    rw [List.foldl_cons, List.foldl_nil, hs]
    exact ⟨rfl, rfl, rfl⟩
  | @next p g b _ hb ho ih =>
    obtain ⟨hdec, hg, hf⟩ := ih
    rw [List.foldl_append, List.foldl_cons, List.foldl_nil]
    rcases step_of_begun hg b with ⟨-, -, hs⟩ | ⟨-, ho', -⟩ | ⟨-, hb', -⟩
    · rw [hs]
      exact ⟨hdec, rfl, hf⟩
    · exact absurd ho ho'
    · exact absurd hb hb'

theorem foldl_char (c : Char) (hd : d.begun = none) : Reads [c] d ((String.utf8EncodeChar c).foldl step d) := by
  by_cases hc : c.toNat < 0x80
  · have value : (UInt8.ofNat c.toNat).toNat = c.toNat := toNat_byte (by omega)
    have hb : UInt8.ofNat c.toNat < 0x80 := UInt8.lt_iff_toNat_lt.mpr (value.trans_lt hc)
    have form := encode_ascii hb
    rw [value, Char.ofNat_toNat] at form
    have hs : d.step (.ofNat c.toNat) = { d.push c with taken := d.taken + 1 } := by
      simp only [step, hd, fresh, if_pos hb, value, Char.ofNat_toNat]
    rw [form, List.foldl_cons, List.foldl_nil, hs]
    exact ⟨rfl, rfl, rfl⟩
  · obtain ⟨p, g, b, hp, hb, ho, code⟩ := exists_of_char c (Nat.not_lt.mp hc)
    have form := encode_of_code hp hb ho
    rw [code, Char.ofNat_toNat] at form
    obtain ⟨hdec, hg, hf⟩ := foldl_of hp hd
    rw [form, List.foldl_append, List.foldl_cons, List.foldl_nil]
    rcases step_of_begun hg b with ⟨-, ho', -⟩ | ⟨-, -, hs⟩ | ⟨-, hb', -⟩
    · exact absurd ho' ho
    · rw [hs, code, Char.ofNat_toNat]
      exact ⟨congrArg (c :: ·) hdec, rfl, hf⟩
    · exact absurd hb hb'

/-- The bytes of a text are taken without a fault, and give the text. -/
theorem foldl_utf8 (s : List Char) (hd : d.begun = none) : Reads s d ((utf8 s).foldl step d) := by
  induction s generalizing d with
  | nil => exact ⟨rfl, hd, rfl⟩
  | cons c s ih =>
    have first := foldl_char c hd
    have rest := ih first.begun
    rw [utf8_cons, List.foldl_append]
    refine ⟨?_, rest.begun, rest.fault.trans first.fault⟩
    rw [rest.decoded, first.decoded, List.reverse_singleton, List.reverse_cons, List.append_assoc]

end Decoder

/-! ## Strict reading -/

/-- Without a fault, strict reading gives the text that reading with substitutes gives. -/
theorem decodeStrict_eq_ok {bytes : ByteArray} {t : List Char} :
    decodeStrict bytes = .ok t ↔ fault? bytes = none ∧ decodeLossy bytes = t := by
  rw [fault?, decodeLossy]
  simp only [decodeStrict]
  cases (run bytes).fault <;> simp

open Decoder in
/-- Strict reading gives a text exactly when the bytes are its form. -/
theorem decodeStrict_eq_ok_iff {bytes : ByteArray} {t : List Char} : decodeStrict bytes = .ok t ↔ bytes = t.utf8Encode := by
  obtain ⟨⟨bytes⟩⟩ := bytes
  have encoded : (⟨⟨bytes⟩⟩ : ByteArray) = t.utf8Encode ↔ bytes = utf8 t := by
    rw [ByteArray.ext_iff, List.utf8Encode, List.data_toByteArray, Array.mk.injEq]
    rfl
  rw [encoded, decodeStrict_eq_ok, fault?, decodeLossy, run, List.foldl_toArray]
  constructor
  · rintro ⟨hf, rfl⟩
    -- What is begun at the end would be a fault, so the bytes are those of the text alone.
    have clean := clean_foldl (p := []) (d := start) (fun _ => ⟨[], rfl, .inl ⟨rfl, rfl⟩⟩) bytes
    generalize bytes.foldl step start = d at hf clean
    cases hg : d.begun with
    | some g =>
      rw [finish, hg] at hf
      exact absurd hf (refuse_fault _ _)
    | none =>
      have whole : d.finish = d := by rw [finish, hg]
      rw [whole] at hf ⊢
      obtain ⟨q, hq, ⟨rfl, -⟩ | ⟨g, hg', -⟩⟩ := clean hf
      · rwa [List.nil_append, List.append_nil] at hq
      · cases hg.symm.trans hg'
  · rintro rfl
    obtain ⟨decoded, begun, fault⟩ := foldl_utf8 t (d := start) rfl
    have whole : ((utf8 t).foldl step start).finish = (utf8 t).foldl step start := by rw [finish, begun]
    rw [whole, fault, decoded, List.reverse_append, List.reverse_reverse]
    exact ⟨rfl, rfl⟩

/-- Bytes that are UTF-8 are read strictly as they are read with substitutes. -/
theorem decodeStrict_of_valid {bytes : ByteArray} (h : bytes.IsValidUTF8) :
    decodeStrict bytes = .ok (decodeLossy bytes) := by
  obtain ⟨t, ht⟩ := h
  have ok := decodeStrict_eq_ok_iff.mpr ht
  rw [ok, (decodeStrict_eq_ok.mp ok).2]

/-- And no others are read strictly. -/
theorem decodeStrict_of_invalid {bytes : ByteArray} (h : ¬ bytes.IsValidUTF8) :
    ∃ fault, decodeStrict bytes = .error fault := by
  cases hd : decodeStrict bytes with
  | error fault => exact ⟨fault, rfl⟩
  | ok t => exact absurd ⟨t, decodeStrict_eq_ok_iff.mp hd⟩ h

end MarkerScan.Text.Utf8
