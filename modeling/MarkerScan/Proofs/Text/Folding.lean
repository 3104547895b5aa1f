import MarkerScan.Proofs.Text.Blank
import MarkerScan.Text.Character
/-
  MarkerScan.Proofs.Text.Folding — characters that case folding leaves alone.

  A character stays or a run moves it (`fold_cases`). The folding moves no blank and no
  punctuation, and lands on none: a character folds to such a character only if it is that
  character (`fold_eq_iff`). So the blanks around a keyword and the delimiters of a comment
  are read the same with and without regard to case (`sameLetter_iff_eq`,
  `isBlank_of_sameLetter`).
-/

namespace MarkerScan.Text

/-- No run of the folding moves the code point `n`, and none lands on it. -/
def outsideFolding (n : Nat) : Bool :=
  n != 0 && foldRuns.all fun r => !r.covers n && !(decide (r.target ≤ n) && decide (n ≤ r.target + (r.last - r.first)))

theorem toNat_ofNat_of_valid {n : Nat} (h : n.isValidChar) : (Char.ofNat n).toNat = n := by
  have valid : Char.ofNat n = Char.ofNatAux n h := dif_pos h
  rw [valid]
  rfl

theorem toNat_ofNat_or_zero (n : Nat) : (Char.ofNat n).toNat = n ∨ (Char.ofNat n).toNat = 0 := by
  by_cases h : n.isValidChar
  · exact Or.inl (toNat_ofNat_of_valid h)
  · have invalid : Char.ofNat n = Char.ofNat 0 := dif_neg h
    rw [invalid]
    exact Or.inr rfl

/-- A character folds to itself, or a run of the folding moves it. -/
theorem fold_cases (d : Char) : fold d = d ∨
    ∃ r ∈ foldRuns, r.covers d.toNat = true ∧ fold d = Char.ofNat (r.target + (d.toNat - r.first)) := by
  unfold fold mapRuns?
  cases hf : foldRuns.find? (·.covers d.toNat) with
  | none => exact Or.inl rfl
  | some r => exact Or.inr ⟨r, List.mem_of_find?_eq_some hf, List.find?_some (p := fun r : Run => r.covers d.toNat) hf, rfl⟩

/-- Where a run lands, it does so from within its interval. -/
theorem landing_of_fold {c d : Char} (h : fold d = c) (h0 : c.toNat ≠ 0) : d = c ∨
    ∃ r ∈ foldRuns, r.first ≤ d.toNat ∧ d.toNat ≤ r.last ∧ c.toNat = r.target + (d.toNat - r.first) := by
  rcases fold_cases d with same | ⟨r, hr, covers, moved⟩
  · exact Or.inl (same.symm.trans h)
  · simp only [Run.covers, Bool.and_eq_true, decide_eq_true_eq] at covers
    refine Or.inr ⟨r, hr, covers.1.1, covers.1.2, ?_⟩
    rcases toNat_ofNat_or_zero (r.target + (d.toNat - r.first)) with hn | hn
    · rw [← hn, ← moved, h]
    · rw [← moved, h] at hn
      exact absurd hn h0

theorem fold_eq_iff {c : Char} (hc : outsideFolding c.toNat = true) (d : Char) : fold d = c ↔ d = c := by
  simp only [outsideFolding, Bool.and_eq_true, bne_iff_ne, ne_eq, List.all_eq_true, Bool.not_eq_true',
    Bool.and_eq_false_iff, decide_eq_false_iff_not] at hc
  obtain ⟨h0, hc⟩ := hc
  constructor
  · intro h
    rcases landing_of_fold h h0 with same | ⟨r, hr, first, last, lands⟩
    · exact same
    · have := (hc r hr).2
      omega
  · rintro rfl
    have : foldRuns.find? (·.covers d.toNat) = none := List.find?_eq_none.mpr fun r hr => by simp [(hc r hr).1]
    simp [fold, mapRuns?, this]

theorem sameLetter_iff_eq {c : Char} (hc : outsideFolding c.toNat = true) (d : Char) :
    sameLetter c d = true ↔ c = d := by
  have : fold c = c := (fold_eq_iff hc c).mpr rfl
  rw [sameLetter, beq_iff_eq, this, eq_comm, fold_eq_iff hc, eq_comm]

theorem outsideFolding_of_blank {c : Char} (hc : isBlank c = true) : outsideFolding c.toNat = true := by
  have blanks : ∀ n ∈ [0x9, 0xA, 0xB, 0xC, 0xD, 0x20, 0x85, 0xA0, 0x1680, 0x2000, 0x2001, 0x2002, 0x2003, 0x2004,
      0x2005, 0x2006, 0x2007, 0x2008, 0x2009, 0x200A, 0x2028, 0x2029, 0x202F, 0x205F, 0x3000],
      outsideFolding n = true := by decide +kernel
  apply blanks
  simp only [isBlank, Bool.or_eq_true, Bool.and_eq_true, decide_eq_true_eq, beq_iff_eq] at hc
  simp only [List.mem_cons, List.not_mem_nil, or_false]
  omega

theorem isBlank_of_sameLetter {c d : Char} (h : sameLetter c d = true) : isBlank d = isBlank c := by
  cases hd : isBlank d with
  | true =>
    have : d = c := (sameLetter_iff_eq (outsideFolding_of_blank hd) c).mp (by rwa [sameLetter_symm])
    rw [← this, hd]
  | false =>
    cases hc : isBlank c with
    | true => rw [← hd, ← (sameLetter_iff_eq (outsideFolding_of_blank hc) d).mp h, hc]
    | false => rfl

end MarkerScan.Text
