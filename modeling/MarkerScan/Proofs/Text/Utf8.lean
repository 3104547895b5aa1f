import Mathlib.Algebra.Group.Nat.Defs
import Mathlib.Data.List.Basic
import MarkerScan.Text.Utf8
/-
  MarkerScan.Proofs.Text.Utf8 — which bytes give which characters.

  A byte goes on with what is begun if it fits. Otherwise what is begun ends there, as it
  does at the end of the bytes, and the byte is looked at afresh (`step_cases`). What is
  begun came of its own bytes (`Begun.Of`), and each of them narrows down the code points
  that can still come of it; no ASCII character is among them, and all of them are code
  points of characters (`sound_of`).

  Proved, over all bytes:
  - `decodeLossy_append`: an ASCII byte stands for itself, and parts the text of the bytes
    before it from the text of those behind it, whatever the bytes before it have begun.
  - `count_decodeLossy`: no other bytes give that character.
  - `getLast?_decodeLossy`: the text ends with it only if the bytes do.
  - `mark_of_decodeLossy`: only its own three bytes put a byte-order mark at the front.
-/

namespace MarkerScan.Text.Utf8

/-! ## What is begun -/

/-- The number that one more byte makes of the bits. -/
def Begun.code (g : Begun) (b : UInt8) : Nat := g.bits * 64 + (b.toNat - 0x80)

/-- What is begun after one more byte that fits. -/
def Begun.next (g : Begun) (b : UInt8) : Begun := ⟨g.code b, g.seen + 1, g.owed - 1, 0x80, 0xBF⟩

def Begun.Fits (g : Begun) (b : UInt8) : Prop := g.low ≤ b ∧ b ≤ g.high

/-- What these bytes have begun. -/
inductive Begun.Of : List UInt8 → Begun → Prop
  | first {b : UInt8} {g : Begun} : begin? b = some g → Of [b] g
  | next {p : List UInt8} {g : Begun} {b : UInt8} : Of p g → g.Fits b → 1 < g.owed → Of (p ++ [b]) (g.next b)

/-- The least code point that can come of what is begun. -/
def Begun.least (g : Begun) : Nat := (g.bits * 64 + (g.low.toNat - 0x80)) * 64 ^ (g.owed - 1)

/-- The first code point that is too great for it. -/
def Begun.bound (g : Begun) : Nat := (g.bits * 64 + (g.high.toNat - 0x80) + 1) * 64 ^ (g.owed - 1)

structure Begun.Sound (g : Begun) : Prop where
  low : 0x80 ≤ g.low.toNat
  owed : 1 ≤ g.owed ∧ g.owed ≤ 3
  least : 0x80 ≤ g.least
  /-- Below the surrogates, or above them and in the range of characters. -/
  bound : g.bound ≤ 0xD800 ∨ 0xE000 ≤ g.least ∧ g.bound ≤ 0x110000

section
variable {g : Begun} {b : UInt8} {p : List UInt8}

theorem fits_iff : g.Fits b ↔ g.low.toNat ≤ b.toNat ∧ b.toNat ≤ g.high.toNat := by
  simp only [Begun.Fits, UInt8.le_iff_toNat_le]

theorem sound_of_begin? (h : begin? b = some g) : g.Sound := by
  unfold begin? at h
  simp only at h
  split_ifs at h <;> obtain rfl := Option.some.inj h <;>
    refine ⟨by simp, by simp, ?_, ?_⟩ <;> simp [Begun.least, Begun.bound] <;> omega

theorem pow_owed {n : Nat} (h : 1 < n) (m : Nat) : m * 64 * 64 ^ (n - 1 - 1) = m * 64 ^ (n - 1) := by
  obtain ⟨k, rfl⟩ : ∃ k, n = k + 2 := ⟨n - 2, by omega⟩
  rw [Nat.mul_assoc, ← Nat.pow_succ']
  rfl

theorem least_next (h : 1 < g.owed) : (g.next b).least = g.code b * 64 ^ (g.owed - 1) := by
  have low : (0x80 : UInt8).toNat - 0x80 = 0 := by decide
  rw [← pow_owed h]
  simp only [Begun.least, Begun.next, low, Nat.add_zero]

theorem bound_next (h : 1 < g.owed) : (g.next b).bound = (g.code b + 1) * 64 ^ (g.owed - 1) := by
  have high : (0xBF : UInt8).toNat - 0x80 = 63 := by decide
  rw [← pow_owed h]
  simp only [Begun.bound, Begun.next, high, Nat.succ_mul]

theorem least_le_code (h : g.Fits b) : g.least ≤ g.code b * 64 ^ (g.owed - 1) := by
  rw [fits_iff] at h
  exact Nat.mul_le_mul_right _ (by unfold Begun.code; omega)

theorem code_lt_bound (h : g.Fits b) : (g.code b + 1) * 64 ^ (g.owed - 1) ≤ g.bound := by
  rw [fits_iff] at h
  exact Nat.mul_le_mul_right _ (by unfold Begun.code; omega)

/-- One more byte only narrows down what can come of it. -/
theorem sound_next (h : g.Sound) (hb : g.Fits b) (ho : 1 < g.owed) : (g.next b).Sound where
  low := Nat.le_refl 128
  owed := ⟨Nat.le_sub_of_add_le ho, Nat.le_trans (Nat.sub_le _ 1) h.owed.2⟩
  least := by
    rw [least_next ho]
    exact Nat.le_trans h.least (least_le_code hb)
  bound := by
    rw [least_next ho, bound_next ho]
    exact h.bound.imp (Nat.le_trans (code_lt_bound hb)) fun ⟨hl, hh⟩ =>
      ⟨Nat.le_trans hl (least_le_code hb), Nat.le_trans (code_lt_bound hb) hh⟩

theorem sound_of (h : Begun.Of p g) : g.Sound := by
  induction h with
  | first h => exact sound_of_begin? h
  | next _ hb ho ih => exact sound_next ih hb ho

/-- What the last byte makes of it is a character, and no ASCII character. -/
theorem toNat_code (h : g.Sound) (hb : g.Fits b) (ho : ¬ 1 < g.owed) :
    (Char.ofNat (g.code b)).toNat = g.code b ∧ 0x80 ≤ g.code b := by
  have one : g.owed - 1 = 0 := by
    have := h.owed
    omega
  have least := least_le_code hb
  have bound := code_lt_bound hb
  rw [one, Nat.pow_zero, Nat.mul_one] at least bound
  have valid : (g.code b).isValidChar := by
    rcases h.bound with hlow | ⟨hhigh, hbound⟩
    · exact .inl (Nat.le_trans bound hlow)
    · exact .inr ⟨Nat.le_trans (Nat.lt_of_lt_of_le (by decide) hhigh) least, Nat.le_trans bound hbound⟩
  refine ⟨?_, Nat.le_trans h.least least⟩
  rw [Char.ofNat, dif_pos valid]
  rfl

end

/-! ## One byte -/

namespace Decoder

variable {d e : Decoder} {b : UInt8} {front : List Char}

/-- What is begun came of some bytes. -/
def Sound (d : Decoder) : Prop := ∀ g, d.begun = some g → g.Sound

/-- The one has begun the same as the other, and its text is the same behind some more text. -/
def Follows (front : List Char) (d e : Decoder) : Prop := d.decoded = e.decoded ++ front ∧ d.begun = e.begun

theorem follows_refuse (h : Follows front d e) (fault fault' : Fault) :
    Follows front (d.refuse fault) (e.refuse fault') := ⟨by simp [refuse, push, h.1], rfl⟩

theorem follows_fresh (h : Follows front d e) (b : UInt8) : Follows front (d.fresh b) (e.fresh b) := by
  unfold fresh
  split
  · exact ⟨by simp [push, h.1], rfl⟩
  · split
    · exact ⟨h.1, rfl⟩
    · exact ⟨by simp [refuse, push, h.1], rfl⟩

theorem follows_step (h : Follows front d e) (b : UInt8) : Follows front (d.step b) (e.step b) := by
  unfold step
  rw [h.2]
  split
  · exact follows_fresh h b
  · split
    · split
      · exact ⟨by simp [push, h.1], rfl⟩
      · exact ⟨h.1, rfl⟩
    · exact follows_fresh (follows_refuse h _ _) b

theorem follows_foldl (h : Follows front d e) (bytes : List UInt8) :
    Follows front (bytes.foldl step d) (bytes.foldl step e) := by
  induction bytes generalizing d e with
  | nil => exact h
  | cons b bytes ih => exact ih (follows_step h b)

theorem follows_finish (h : Follows front d e) : Follows front d.finish e.finish := by
  unfold finish
  rw [h.2]
  split
  · exact ⟨h.1, by rw [h.2]⟩
  · exact follows_refuse h _ _

/-- At the end, a substitute stands for what is begun. -/
theorem decoded_finish (d : Decoder) :
    d.finish.decoded = if d.begun.isSome then substitute :: d.decoded else d.decoded := by
  unfold finish
  cases d.begun <;> rfl

theorem fresh_cases (d : Decoder) (b : UInt8) :
    b < 0x80 ∧ (d.fresh b).decoded = Char.ofNat b.toNat :: d.decoded ∧ (d.fresh b).begun = none ∨
    ¬ b < 0x80 ∧ (d.fresh b).decoded = substitute :: d.decoded ∧ (d.fresh b).begun = none ∨
    ∃ g, ¬ b < 0x80 ∧ begin? b = some g ∧ (d.fresh b).decoded = d.decoded ∧ (d.fresh b).begun = some g := by
  unfold fresh
  split
  · rename_i hb
    exact .inl ⟨hb, rfl, rfl⟩
  · rename_i hb
    split
    · rename_i g hg
      exact .inr (.inr ⟨g, hb, hg, rfl, rfl⟩)
    · exact .inr (.inl ⟨hb, rfl, rfl⟩)

/-- A byte goes on with what is begun, makes a character of it, or is looked at afresh when that has ended. -/
theorem step_cases (d : Decoder) (b : UInt8) :
    (∃ g, d.begun = some g ∧ g.Fits b ∧ 1 < g.owed ∧ (d.step b).decoded = d.decoded ∧
      (d.step b).begun = some (g.next b)) ∨
    (∃ g, d.begun = some g ∧ g.Fits b ∧ ¬ 1 < g.owed ∧ (d.step b).decoded = Char.ofNat (g.code b) :: d.decoded ∧
      (d.step b).begun = none) ∨
    (∀ g, d.begun = some g → ¬ g.Fits b) ∧ Follows [] (d.step b) (d.finish.fresh b) := by
  unfold step
  cases hg : d.begun with
  | none =>
    refine .inr (.inr ⟨by simp, ?_⟩)
    rw [finish, hg]
    exact ⟨by simp, rfl⟩
  | some g =>
    by_cases hb : g.Fits b
    · have fits : (decide (g.low ≤ b) && decide (b ≤ g.high)) = true := by simpa [Begun.Fits] using hb
      simp only [fits, if_true]
      by_cases ho : 1 < g.owed
      · rw [if_neg (Nat.not_le.mpr ho)]
        exact .inl ⟨g, rfl, hb, ho, rfl, rfl⟩
      · rw [if_pos (Nat.not_lt.mp ho)]
        exact .inr (.inl ⟨g, rfl, hb, ho, rfl, rfl⟩)
    · have misfit : ¬ (decide (g.low ≤ b) && decide (b ≤ g.high)) = true := by simpa [Begun.Fits] using hb
      simp only [misfit]
      refine .inr (.inr ⟨by rintro _ ⟨⟩; exact hb, ?_⟩)
      rw [finish, hg]
      have same : Follows [] d d := ⟨by simp, rfl⟩
      exact follows_fresh (follows_refuse same _ _) b

theorem sound_start : Sound start := fun g h => by cases h

theorem sound_step (h : d.Sound) (b : UInt8) : (d.step b).Sound := by
  intro g hg
  rcases step_cases d b with ⟨g', hg', hb, ho, -, hn⟩ | ⟨g', -, -, -, -, hn⟩ | ⟨-, -, hn⟩
  · obtain rfl := Option.some.inj (hn.symm.trans hg)
    exact sound_next (h g' hg') hb ho
  · cases hn.symm.trans hg
  · rcases fresh_cases d.finish b with ⟨-, -, hf⟩ | ⟨-, -, hf⟩ | ⟨g', -, hb, -, hf⟩
    · cases (hn.trans hf).symm.trans hg
    · cases (hn.trans hf).symm.trans hg
    · obtain rfl := Option.some.inj ((hn.trans hf).symm.trans hg)
      exact sound_of_begin? hb

theorem sound_foldl (h : d.Sound) (bytes : List UInt8) : (bytes.foldl step d).Sound := by
  induction bytes generalizing d with
  | nil => exact h
  | cons b bytes ih => exact ih (sound_step h b)

theorem not_fits_of_ascii {g : Begun} (h : g.Sound) (hb : b < 0x80) : ¬ g.Fits b := by
  rw [fits_iff]
  have := h.low
  have : b.toNat < 0x80 := UInt8.lt_iff_toNat_lt.mp hb
  omega

/-- An ASCII byte ends what is begun and stands for itself. -/
theorem step_ascii (h : d.Sound) (hb : b < 0x80) :
    (d.step b).decoded = Char.ofNat b.toNat :: d.finish.decoded ∧ (d.step b).begun = none := by
  rcases step_cases d b with ⟨g, hg, hf, -⟩ | ⟨g, hg, hf, -⟩ | ⟨-, hd, hn⟩
  · exact absurd hf (not_fits_of_ascii (h g hg) hb)
  · exact absurd hf (not_fits_of_ascii (h g hg) hb)
  · rcases fresh_cases d.finish b with ⟨-, hd', hn'⟩ | ⟨hnb, -⟩ | ⟨_, hnb, -⟩
    · exact ⟨by rw [hd, hd', List.append_nil], by rw [hn, hn']⟩
    · exact absurd hb hnb
    · exact absurd hb hnb

/-- Any other byte gives no ASCII character, and if it gives none at all then something is begun. -/
theorem step_wide (h : d.Sound) (hb : ¬ b < 0x80) :
    ∃ new, (∀ c ∈ new, 0x80 ≤ c.toNat) ∧ (d.step b).decoded = new ++ d.decoded ∧
      (new = [] → (d.step b).begun.isSome) := by
  have wide : 0x80 ≤ substitute.toNat := by decide
  rcases step_cases d b with ⟨g, -, -, -, hd, hn⟩ | ⟨g, hg, hf, ho, hd, -⟩ | ⟨-, hd, hn⟩
  · exact ⟨[], by simp, hd, by simp [hn]⟩
  · obtain ⟨hc, hw⟩ := toNat_code (h g hg) hf ho
    exact ⟨[Char.ofNat (g.code b)], by simpa [hc] using hw, hd, by simp⟩
  · rw [List.append_nil] at hd
    have ended : ∃ new, (∀ c ∈ new, 0x80 ≤ c.toNat) ∧ d.finish.decoded = new ++ d.decoded := by
      rw [decoded_finish]
      split
      · exact ⟨[substitute], by simpa using wide, rfl⟩
      · exact ⟨[], by simp, rfl⟩
    obtain ⟨new, hw, hnew⟩ := ended
    rcases fresh_cases d.finish b with ⟨hb', -⟩ | ⟨-, hd', -⟩ | ⟨g, -, -, hd', hn'⟩
    · exact absurd hb' hb
    · refine ⟨substitute :: new, ?_, by rw [hd, hd', hnew, List.cons_append], by simp⟩
      rintro c (_ | ⟨_, hc⟩)
      · exact wide
      · exact hw c hc
    · exact ⟨new, hw, by rw [hd, hd', hnew], by simp [hn, hn']⟩

end Decoder

/-! ## ASCII characters -/

theorem toNat_ofNat_ascii {c : UInt8} (hc : c < 0x80) : (Char.ofNat c.toNat).toNat = c.toNat := by
  have : c.toNat < 0x80 := UInt8.lt_iff_toNat_lt.mp hc
  rw [Char.ofNat, dif_pos (.inl (by omega))]
  rfl

theorem ofNat_inj_ascii {b c : UInt8} (hb : b < 0x80) (hc : c < 0x80) :
    Char.ofNat b.toNat = Char.ofNat c.toNat ↔ b = c := by
  rw [← Char.toNat_inj, toNat_ofNat_ascii hb, toNat_ofNat_ascii hc, UInt8.toNat_inj]

theorem ne_of_wide {c : UInt8} (hc : c < 0x80) {x : Char} (hx : 0x80 ≤ x.toNat) : x ≠ Char.ofNat c.toNat := by
  rintro rfl
  rw [toNat_ofNat_ascii hc] at hx
  have : c.toNat < 0x80 := UInt8.lt_iff_toNat_lt.mp hc
  omega

theorem wide_substitute : 0x80 ≤ substitute.toNat := by decide

namespace Decoder

variable {d : Decoder} {b c : UInt8}

theorem count_finish (hc : c < 0x80) (d : Decoder) :
    d.finish.decoded.count (Char.ofNat c.toNat) = d.decoded.count (Char.ofNat c.toNat) := by
  rw [decoded_finish]
  split
  · exact List.count_cons_of_ne (ne_of_wide hc wide_substitute)
  · rfl

theorem count_step (h : d.Sound) (hc : c < 0x80) (b : UInt8) :
    (d.step b).decoded.count (Char.ofNat c.toNat) =
      d.decoded.count (Char.ofNat c.toNat) + if b = c then 1 else 0 := by
  by_cases hb : b < 0x80
  · rw [(step_ascii h hb).1, List.count_cons, count_finish hc]
    simp only [beq_iff_eq, ofNat_inj_ascii hb hc]
  · obtain ⟨new, hw, hd, -⟩ := step_wide h hb
    have none : new.count (Char.ofNat c.toNat) = 0 :=
      List.count_eq_zero.mpr fun hm => ne_of_wide hc (hw _ hm) rfl
    rw [hd, List.count_append, none, if_neg (by rintro rfl; exact hb hc), Nat.zero_add, Nat.add_zero]

theorem count_foldl (h : d.Sound) (hc : c < 0x80) (bytes : List UInt8) :
    (bytes.foldl step d).decoded.count (Char.ofNat c.toNat) =
      d.decoded.count (Char.ofNat c.toNat) + bytes.count c := by
  induction bytes generalizing d with
  | nil => rfl
  | cons b bytes ih =>
    rw [List.foldl_cons, ih (sound_step h b), count_step h hc, List.count_cons]
    simp only [beq_iff_eq]
    omega

/-- After an ASCII byte the latest character is that byte, and after any other it is no ASCII character. -/
theorem head?_finish_step (h : d.Sound) (b : UInt8) :
    ∃ x rest, (d.step b).finish.decoded = x :: rest ∧
      (b < 0x80 ∧ x = Char.ofNat b.toNat ∨ 0x80 ≤ x.toNat) := by
  rw [decoded_finish]
  by_cases hb : b < 0x80
  · obtain ⟨hd, hn⟩ := step_ascii h hb
    exact ⟨_, _, by rw [hn, hd]; rfl, .inl ⟨hb, rfl⟩⟩
  · obtain ⟨new, hw, hd, hn⟩ := step_wide h hb
    split
    · exact ⟨_, _, rfl, .inr wide_substitute⟩
    · rename_i hnone
      cases new with
      | nil => exact absurd (hn rfl) hnone
      | cons x new => exact ⟨x, _, hd, .inr (hw x (List.mem_cons_self ..))⟩

end Decoder

/-! ## Whole texts -/

theorem decodeLossy_eq (bytes : List UInt8) :
    decodeLossy ⟨⟨bytes⟩⟩ = (bytes.foldl Decoder.step .start).finish.decoded.reverse := by
  rw [decodeLossy, run, List.foldl_toArray]

section
open Decoder
variable {c : UInt8}

/-- An ASCII byte parts the text of the bytes before it from that of the bytes behind it. -/
theorem decodeLossy_append (hc : c < 0x80) (a b : List UInt8) :
    decodeLossy ⟨⟨a ++ c :: b⟩⟩ = decodeLossy ⟨⟨a⟩⟩ ++ Char.ofNat c.toNat :: decodeLossy ⟨⟨b⟩⟩ := by
  simp only [decodeLossy_eq, List.foldl_append, List.foldl_cons]
  have behind : Follows (Char.ofNat c.toNat :: (a.foldl step start).finish.decoded)
      ((a.foldl step start).step c) start := step_ascii (sound_foldl sound_start a) hc
  rw [(follows_finish (follows_foldl behind b)).1]
  simp

theorem count_decodeLossy (hc : c < 0x80) (bytes : List UInt8) :
    (decodeLossy ⟨⟨bytes⟩⟩).count (Char.ofNat c.toNat) = bytes.count c := by
  rw [decodeLossy_eq, List.count_reverse, count_finish hc, count_foldl sound_start hc]
  exact Nat.zero_add _

theorem getLast?_decodeLossy (hc : c < 0x80) {bytes : List UInt8}
    (h : (decodeLossy ⟨⟨bytes⟩⟩).getLast? = some (Char.ofNat c.toNat)) : bytes.getLast? = some c := by
  rw [decodeLossy_eq, List.getLast?_reverse] at h
  rcases List.eq_nil_or_concat bytes with rfl | ⟨init, b, rfl⟩
  · cases h
  · obtain ⟨x, rest, hx, hb⟩ := head?_finish_step (sound_foldl sound_start init) b
    rw [List.concat_eq_append, List.foldl_append, List.foldl_cons, List.foldl_nil, hx] at h
    obtain rfl := Option.some.inj h
    rcases hb with ⟨hb, he⟩ | hw
    · rw [(ofNat_inj_ascii hb hc).mp he.symm, List.concat_eq_append, List.getLast?_concat]
    · exact absurd rfl (ne_of_wide hc hw)

end

/-! ## A byte-order mark at the front -/

/-- What a first byte begins, by the number of bytes owed. -/
theorem begin?_cases {b : UInt8} {g : Begun} (h : begin? b = some g) :
    g.owed = 1 ∧ g.bits < 0x20 ∨ g.owed = 2 ∧ b.toNat = 0xE0 + g.bits ∧ g.high.toNat ≤ 0xBF ∨
      g.owed = 3 ∧ (1 ≤ g.bits ∨ 0x90 ≤ g.low.toNat) := by
  unfold begin? at h
  simp only at h
  split_ifs at h <;> obtain rfl := Option.some.inj h <;> simp <;> omega

theorem owed_next (g : Begun) (b : UInt8) : (g.next b).owed = g.owed - 1 := rfl

theorem code_next (g : Begun) (b b' : UInt8) : (g.next b).code b' = g.code b * 64 + (b'.toNat - 0x80) := rfl

theorem tail_of_fits_next {g : Begun} {b b' : UInt8} (h : (g.next b).Fits b') : 0x80 ≤ b'.toNat ∧ b'.toNat ≤ 0xBF :=
  fits_iff.mp h

/-- Three bytes make a byte-order mark, and no others do. -/
theorem mark_of_code {p : List UInt8} {g : Begun} {b : UInt8} (h : Begun.Of p g) (hb : g.Fits b) (ho : ¬ 1 < g.owed)
    (hc : g.code b = 0xFEFF) : p ++ [b] = [0xEF, 0xBB, 0xBF] := by
  have fits := fits_iff.mp hb
  cases h with
  | @first x _ hx =>
    have small := UInt8.toNat_lt b
    have := begin?_cases hx
    unfold Begun.code at hc
    omega
  | @next q g y hq hy hoy =>
    have tail := tail_of_fits_next hb
    rw [code_next] at hc
    rw [owed_next] at ho
    have hcy : g.code y = 0x3FB := by omega
    obtain rfl : b = 0xBF := UInt8.toNat_inj.mp (by show b.toNat = 0xBF; omega)
    have fits := fits_iff.mp hy
    cases hq with
    | @first x _ hx =>
      have := begin?_cases hx
      unfold Begun.code at hcy
      obtain rfl : x = 0xEF := UInt8.toNat_inj.mp (by show x.toNat = 0xEF; omega)
      obtain rfl : y = 0xBB := UInt8.toNat_inj.mp (by show y.toNat = 0xBB; omega)
      rfl
    | @next q g z hq hz hoz =>
      -- A fourth byte is behind code points that are greater.
      have tail := tail_of_fits_next hy
      rw [code_next] at hcy
      rw [owed_next] at ho hoy
      have fits := fits_iff.mp hz
      cases hq with
      | @first x _ hx =>
        have := begin?_cases hx
        have hcz : g.code z = 0xF := by omega
        unfold Begun.code at hcz
        omega
      | @next q g w hq hw how =>
        have := (sound_of hq).owed
        rw [owed_next] at hoy
        omega

namespace Decoder

variable {p : List UInt8} {d : Decoder}

/-- The first character is no byte-order mark, unless the bytes are. -/
def Marked (p : List UInt8) (d : Decoder) : Prop :=
  ∃ c, d.decoded.getLast? = some c ∧ (c = '\uFEFF' → [0xEF, 0xBB, 0xBF] <+: p)

/-- The bytes have given a character, or have all begun one. -/
def Opens (p : List UInt8) (d : Decoder) : Prop :=
  Marked p d ∨ d.decoded = [] ∧ (p = [] ∧ d.begun = none ∨ ∃ g, d.begun = some g ∧ Begun.Of p g)

theorem marked_substitute (new : List Char) (h : d.decoded = new ++ [substitute]) : Marked p d :=
  ⟨substitute, by rw [h, List.getLast?_concat], fun h => absurd h (by decide)⟩

/-- Text is only added to. -/
theorem decoded_step (d : Decoder) (b : UInt8) : ∃ new, (d.step b).decoded = new ++ d.decoded := by
  obtain ⟨old, hold⟩ : ∃ new, d.finish.decoded = new ++ d.decoded := by
    rw [decoded_finish]
    split
    · exact ⟨[substitute], rfl⟩
    · exact ⟨[], rfl⟩
  rcases step_cases d b with ⟨g, -, -, -, hd, -⟩ | ⟨g, -, -, -, hd, -⟩ | ⟨-, hd, -⟩
  · exact ⟨[], hd⟩
  · exact ⟨[_], hd⟩
  · rw [hd, List.append_nil]
    rcases fresh_cases d.finish b with ⟨-, hf, -⟩ | ⟨-, hf, -⟩ | ⟨g, -, -, hf, -⟩
    · exact ⟨_ :: old, by rw [hf, hold]; rfl⟩
    · exact ⟨_ :: old, by rw [hf, hold]; rfl⟩
    · exact ⟨old, by rw [hf, hold]⟩

theorem opens_first (b : UInt8) (hd : d.decoded = []) (hn : d.begun = none) : Opens [b] (d.step b) := by
  have ended : d.finish.decoded = [] := by rw [decoded_finish, hn, hd]; rfl
  rcases step_cases d b with ⟨g, hg, -⟩ | ⟨g, hg, -⟩ | ⟨-, hs, hb⟩
  · cases hn.symm.trans hg
  · cases hn.symm.trans hg
  · rw [List.append_nil] at hs
    rcases fresh_cases d.finish b with ⟨ha, hf, -⟩ | ⟨-, hf, -⟩ | ⟨g, -, hg, hf, hn'⟩
    · refine .inl ⟨_, by rw [hs, hf, ended]; rfl, fun hm => ?_⟩
      have mark : 0x80 ≤ '\uFEFF'.toNat := by decide
      exact absurd hm.symm (ne_of_wide ha mark)
    · exact .inl (marked_substitute [] (by rw [hs, hf, ended]; rfl))
    · exact .inr ⟨by rw [hs, hf, ended], .inr ⟨g, by rw [hb, hn'], .first hg⟩⟩

theorem opens_next {g : Begun} (b : UInt8) (hd : d.decoded = []) (hg : d.begun = some g) (hp : Begun.Of p g) :
    Opens (p ++ [b]) (d.step b) := by
  have ended : d.finish.decoded = [substitute] := by rw [decoded_finish, hg, hd]; rfl
  rcases step_cases d b with ⟨g', hg', hb, ho, hs, hn⟩ | ⟨g', hg', hb, ho, hs, hn⟩ | ⟨-, hs, -⟩
  · obtain rfl := Option.some.inj (hg.symm.trans hg')
    exact .inr ⟨by rw [hs, hd], .inr ⟨_, hn, .next hp hb ho⟩⟩
  · obtain rfl := Option.some.inj (hg.symm.trans hg')
    refine .inl ⟨Char.ofNat (g.code b), by rw [hs, hd]; rfl, fun hm => ?_⟩
    have code := (toNat_code (sound_of hp) hb ho).1
    rw [hm] at code
    have whole := mark_of_code hp hb ho code.symm
    exact whole ▸ List.prefix_rfl
  · rw [List.append_nil] at hs
    rcases fresh_cases d.finish b with ⟨-, hf, -⟩ | ⟨-, hf, -⟩ | ⟨_, -, -, hf, -⟩
    · exact .inl (marked_substitute [_] (by rw [hs, hf, ended]; rfl))
    · exact .inl (marked_substitute [_] (by rw [hs, hf, ended]; rfl))
    · exact .inl (marked_substitute [] (by rw [hs, hf, ended]; rfl))

theorem opens_step (h : Opens p d) (b : UInt8) : Opens (p ++ [b]) (d.step b) := by
  rcases h with ⟨c, hc, hm⟩ | ⟨hd, ⟨rfl, hn⟩ | ⟨g, hg, hp⟩⟩
  · obtain ⟨new, hnew⟩ := decoded_step d b
    refine .inl ⟨c, ?_, fun h => (hm h).trans (List.prefix_append _ _)⟩
    rw [hnew, List.getLast?_append, hc]
    rfl
  · exact opens_first b hd hn
  · exact opens_next b hd hg hp

theorem opens_foldl (h : Opens p d) (bytes : List UInt8) : Opens (p ++ bytes) (bytes.foldl step d) := by
  induction bytes generalizing p d with
  | nil => rwa [List.append_nil]
  | cons b bytes ih =>
    have := ih (opens_step h b)
    rwa [List.append_assoc] at this

end Decoder

/-- Only its own bytes put a byte-order mark at the front. -/
theorem mark_of_decodeLossy {bytes : List UInt8} (h : (decodeLossy ⟨⟨bytes⟩⟩).head? = some '\uFEFF') :
    [0xEF, 0xBB, 0xBF] <+: bytes := by
  have opens := Decoder.opens_foldl (p := []) (d := .start) (.inr ⟨rfl, .inl ⟨rfl, rfl⟩⟩) bytes
  rw [List.nil_append] at opens
  rw [decodeLossy_eq, List.head?_reverse, Decoder.decoded_finish] at h
  rcases opens with ⟨c, hc, hm⟩ | ⟨hd, ⟨-, hn⟩ | ⟨g, hg, -⟩⟩
  · apply hm
    split at h
    · rw [List.getLast?_cons, hc] at h
      exact Option.some.inj h
    · exact Option.some.inj (hc.symm.trans h)
  · rw [hd, hn] at h
    cases h
  · rw [hd, hg] at h
    cases h

end MarkerScan.Text.Utf8
