import Mathlib.Data.Nat.Basic
import MarkerScan.Json.Printer
import MarkerScan.Json.Reader
/-
  MarkerScan.Proofs.Json.Number — whole numbers are read back as they were written.

  The decimal digits of a number start with a zero only if it is zero (`toDigits_ne_zero_cons`),
  and all of them fit where the number does (`leadingDigits_toDigits`). So the text of a whole
  number of 64 bits, or of a negative one, is read as that number wherever the text behind it
  cannot go on as a number (`number?_text`).
-/

namespace MarkerScan.Json

open Number (digit?)

/-- No digit, point or exponent at the front. -/
def NumberEnds (s : List Char) : Prop := ∀ c, s.head? = some c → c.isDigit = false ∧ c ≠ '.' ∧ c ≠ 'e' ∧ c ≠ 'E'

theorem numberEnds_nil : NumberEnds [] := fun _ h => nomatch h

theorem numberEnds_cons {c : Char} {s : List Char} :
    NumberEnds (c :: s) ↔ c.isDigit = false ∧ c ≠ '.' ∧ c ≠ 'e' ∧ c ≠ 'E' := by
  simp [NumberEnds]

theorem isDigit_toDigits {n : Nat} {c : Char} (h : c ∈ Nat.toDigits 10 n) : c.isDigit = true :=
  Nat.isDigit_of_mem_toDigits (by decide) (by decide) h

theorem toDigits_head (n : Nat) : ∃ c digits, Nat.toDigits 10 n = c :: digits ∧ c.isDigit = true := by
  obtain ⟨c, digits, h⟩ := List.exists_cons_of_ne_nil (Nat.toDigits_ne_nil (n := n) (b := 10))
  exact ⟨c, digits, h, isDigit_toDigits (n := n) (by rw [h]; exact List.mem_cons_self)⟩

theorem toDigits_ne_zero_cons {n : Nat} (h : 0 < n) (rest : List Char) : Nat.toDigits 10 n ≠ '0' :: rest := by
  induction n using Nat.strongRecOn generalizing rest with
  | _ n ih =>
    intro e
    rw [Nat.toDigits_eq_if (by decide)] at e
    split at e
    · have := Nat.digitChar_eq_zero.mp (List.cons.inj e).1
      omega
    · obtain ⟨c, tens, ht, -⟩ := toDigits_head (n / 10)
      rw [ht, List.cons_append] at e
      rw [(List.cons.inj e).1] at ht
      exact ih (n / 10) (by omega) (by omega) tens ht

/-! ## The parts of a number -/

section
variable {digits rest : List Char}

theorem takeWhile_digits (hd : ∀ c ∈ digits, c.isDigit = true) (hr : NumberEnds rest) :
    (digits ++ rest).takeWhile Char.isDigit = digits ∧ (digits ++ rest).dropWhile Char.isDigit = rest := by
  rw [List.takeWhile_append_of_pos hd, List.dropWhile_append_of_pos hd]
  cases rest with
  | nil => exact ⟨List.append_nil digits, rfl⟩
  | cons c rest =>
    have hc := (numberEnds_cons.mp hr).1
    rw [List.takeWhile_cons, List.dropWhile_cons, hc]
    exact ⟨List.append_nil digits, rfl⟩

theorem wholePart?_toDigits (n : Nat) (hr : NumberEnds rest) :
    wholePart? (Nat.toDigits 10 n ++ rest) = some (Nat.toDigits 10 n, rest) := by
  obtain ⟨whole, behind⟩ := takeWhile_digits (fun c hc => isDigit_toDigits (n := n) hc) hr
  rcases Nat.eq_zero_or_pos n with rfl | hn
  · have last : rest.head?.any Char.isDigit = false := by
      cases rest with
      | nil => rfl
      | cons c rest => exact (numberEnds_cons.mp hr).1
    rw [Nat.toDigits_zero, List.singleton_append, wholePart?, last]
    rfl
  · unfold wholePart?
    split
    · rename_i tail h
      obtain ⟨c, digits, hd, -⟩ := toDigits_head n
      rw [hd, List.cons_append] at h
      rw [(List.cons.inj h).1] at hd
      exact absurd hd (toDigits_ne_zero_cons hn digits)
    · simp only [whole, behind]
      rw [if_neg (by simp [Nat.toDigits_ne_nil])]

theorem fractionPart?_none (hr : NumberEnds rest) : fractionPart? rest = some (none, rest) := by
  unfold fractionPart?
  split
  · exact absurd rfl (numberEnds_cons.mp hr).2.1
  · rfl

theorem exponentPart?_none (hr : NumberEnds rest) : exponentPart? rest = some (none, rest) := by
  cases rest with
  | nil => rfl
  | cons c rest =>
    obtain ⟨-, -, small, capital⟩ := numberEnds_cons.mp hr
    exact if_neg fun h => h.elim small capital

/-! ## The value of its digits -/

theorem le_ofDigitChars (digits : List Char) (n : Nat) : n ≤ Nat.ofDigitChars 10 digits n := by
  rw [Nat.ofDigitChars_eq_ofDigitChars_zero]
  have := Nat.le_mul_of_pos_left n (Nat.pow_pos (n := digits.length) (show 0 < 10 by decide))
  omega

theorem leadingDigits_eq (hd : ∀ c ∈ digits, c.isDigit = true) (n : Nat)
    (h : Nat.ofDigitChars 10 digits n < UInt64.size) :
    leadingDigits digits (n, 0) = (Nat.ofDigitChars 10 digits n, 0) := by
  induction digits generalizing n with
  | nil => rfl
  | cons c digits ih =>
    have value : digit? c = some (c.toNat - '0'.toNat) := by rw [digit?, if_pos (hd c List.mem_cons_self)]
    have next : n * 10 + (digit? c).getD 0 = 10 * n + (c.toNat - '0'.toNat) := by
      rw [value, Option.getD_some, Nat.mul_comm]
    rw [Nat.ofDigitChars_cons] at h ⊢
    rw [leadingDigits, next, if_pos (Nat.lt_of_le_of_lt (le_ofDigitChars digits _) h)]
    exact ih (fun d hd' => hd d (List.mem_cons_of_mem _ hd')) _ h

theorem leadingDigits_toDigits {n : Nat} (h : n < UInt64.size) : leadingDigits (Nat.toDigits 10 n) (0, 0) = (n, 0) := by
  have value : Nat.ofDigitChars 10 (Nat.toDigits 10 n) 0 = n := Nat.ofDigitChars_ten_toDigits
  rw [leadingDigits_eq (fun c hc => isDigit_toDigits hc) 0 (by rw [value]; exact h), value]

/-- Digits behind which no number goes on are the whole of a number. -/
theorem unsignedNumber?_toDigits {negative : Bool} {n : Nat} {x : Num} (hr : NumberEnds rest)
    (hx : NumberParts.value? negative ⟨Nat.toDigits 10 n, none, none⟩ = some x) :
    unsignedNumber? negative (Nat.toDigits 10 n ++ rest) = some (x, rest) := by
  simp only [unsignedNumber?, bind, Option.bind, wholePart?_toDigits n hr, fractionPart?_none hr, exponentPart?_none hr, hx]
  rfl

end

/-- A whole number, or a negative one that is below zero as its kind says. -/
def Num.Whole : Num → Prop
  | .whole _ => True
  | .below n => n < 0
  | .real _ => False

theorem Num.text_head {x : Num} (hx : x.Whole) : ∃ c s, x.text = c :: s ∧ (c.isDigit = true ∨ c = '-') := by
  cases x with
  | whole n =>
    obtain ⟨c, digits, h, hc⟩ := toDigits_head n.toNat
    exact ⟨c, digits, h, Or.inl hc⟩
  | below n => exact ⟨'-', _, rfl, Or.inr rfl⟩
  | real x => exact absurd hx id

theorem number?_text {x : Num} (hx : x.Whole) {rest : List Char} (hr : NumberEnds rest) :
    number? (x.text ++ rest) = some (x, rest) := by
  cases x with
  | whole n =>
    have value : NumberParts.value? false ⟨Nat.toDigits 10 n.toNat, none, none⟩ = some (.whole n) := by
      simp [NumberParts.value?, leadingDigits_toDigits n.toNat_lt]
    have unsigned : ∀ s, Nat.toDigits 10 n.toNat ++ rest ≠ '-' :: s := by
      intro s e
      obtain ⟨c, digits, hd, hc⟩ := toDigits_head n.toNat
      rw [hd, List.cons_append] at e
      rw [(List.cons.inj e).1] at hc
      exact absurd hc (by decide)
    rw [Num.text, number?]
    · exact unsignedNumber?_toDigits hr value
    · exact unsigned
  | below n =>
    have negative : n.toInt < 0 := Int64.lt_iff_toInt_lt.mp hx
    have least : -2 ^ 63 ≤ n.toInt := n.le_toInt
    have size : n.toInt.natAbs < UInt64.size := by
      have : (UInt64.size : Int) = 2 ^ 64 := rfl
      omega
    have value : NumberParts.value? true ⟨Nat.toDigits 10 n.toInt.natAbs, none, none⟩ = some (.below n) := by
      have back : (-(n.toInt.natAbs : Int)) = n.toInt := by omega
      have within : 0 < n.toInt.natAbs ∧ n.toInt.natAbs ≤ 9223372036854775808 := by omega
      simp only [NumberParts.value?, leadingDigits_toDigits size, back, Int64.ofInt_toInt]
      simp [within]
    show unsignedNumber? true (Nat.toDigits 10 n.toInt.natAbs ++ rest) = _
    exact unsignedNumber?_toDigits hr value
  | real x => exact absurd hx id

end MarkerScan.Json
