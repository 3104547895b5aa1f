import MarkerScan.Proofs.Text.Folding
import MarkerScan.Proofs.Text.Word
import MarkerScan.Text.LetterCase
/-
  MarkerScan.Proofs.Text.AsciiCase — on words, the rules of Unicode are those of ASCII.

  A word is made of ASCII characters alone, and there folding is the small letter
  (`fold_of_isWord`) and the capital is that of ASCII (`upper_of_word`). So a spelling of a
  word in another ASCII case is a word (`isRun_of_sameAscii`) that folds as it does
  (`fold_of_sameAscii`). The other way round, what folds as a word character is one, but for
  the long s and the kelvin sign, which fold as `s` and `k` (`isWord_of_fold`).
-/

namespace MarkerScan.Text

/-- What holds of each ASCII character by its number holds of every ASCII character. -/
theorem forall_ascii {p : Char → Bool} (h : (List.range 128).all (fun n => p (Char.ofNat n)) = true) {c : Char}
    (hc : c.toNat < 128) : p c = true := by
  have at_c := List.all_eq_true.mp h c.toNat (List.mem_range.mpr hc)
  rwa [Char.ofNat_toNat] at at_c

/-- The same for the characters of words. -/
theorem forall_isWord {p : Char → Bool} (h : (List.range 128).all (fun n => !isWord (Char.ofNat n) || p (Char.ofNat n)) = true)
    {c : Char} (hc : isWord c = true) : p c = true := by
  have small := (toNat_of_isWord hc).2
  have at_c : (!isWord c || p c) = true := forall_ascii (p := fun c => !isWord c || p c) h (by omega)
  rwa [hc] at at_c

theorem fold_of_isWord {c : Char} (hc : isWord c = true) : fold c = c.toLower :=
  beq_iff_eq.mp (forall_isWord (p := fun c => fold c == c.toLower) (by decide +kernel) hc)

theorem isWord_toLower {c : Char} (hc : isWord c = true) : isWord c.toLower = true :=
  forall_isWord (p := fun c => isWord c.toLower) (by decide +kernel) hc

theorem isWord_of_toLower {c : Char} (h : isWord c.toLower = true) : isWord c = true := by
  by_cases hc : 'A'.val ≤ c.val ∧ c.val ≤ 'Z'.val
  · have upper : c.isUpper = true := decide_eq_true hc
    show (((c.isUpper || c.isLower) || c.isDigit) || c == '_') = true
    rw [upper, Bool.true_or, Bool.true_or, Bool.true_or]
  · have same : c.toLower = c := dif_neg hc
    rwa [same] at h

/-- A run of the folding that lands on an ASCII character starts at one of the letters `A` to `Z`, at `ſ` or at `K`. -/
def landsFromLetters (r : Run) : Bool :=
  decide (128 ≤ r.target) || (decide (0x41 ≤ r.first) && decide (r.last ≤ 0x5A)) ||
    (r.first == 0x17F && r.last == 0x17F) || (r.first == 0x212A && r.last == 0x212A)

/-- What folds as a word character does is one, but for two characters. -/
theorem isWord_of_fold {c d : Char} (hd : isWord d = true) (h : fold c = fold d) (hs : c ≠ '\u017F') (hk : c ≠ '\u212A') :
    isWord c = true := by
  have word : isWord (fold d) = true := by
    rw [fold_of_isWord hd]
    exact isWord_toLower hd
  have small := toNat_of_isWord word
  have check : foldRuns.all landsFromLetters = true := by decide +kernel
  have apart : ∀ {e : Char} {n : Nat}, c ≠ e → e.toNat = n → c.toNat ≠ n :=
    fun hne he hc => hne (Char.toNat_inj.mp (hc.trans he.symm))
  rcases landing_of_fold h (by omega) with same | ⟨r, hr, first, last, lands⟩
  · rw [same]
    exact word
  · have letters := List.all_eq_true.mp check r hr
    simp only [landsFromLetters, Bool.or_eq_true, Bool.and_eq_true, decide_eq_true_eq, beq_iff_eq] at letters
    have not_s := apart hs (n := 0x17F) rfl
    have not_k := apart hk (n := 0x212A) rfl
    have capital : 0x41 ≤ c.toNat ∧ c.toNat ≤ 0x5A := by omega
    let p (c : Char) := !(decide (0x41 ≤ c.toNat) && decide (c.toNat ≤ 0x5A)) || isWord c
    have at_c : p c = true := forall_ascii (by decide +kernel) (by omega)
    simpa [p, capital] using at_c

section
variable {word k : List Char} (h : sameAscii word k = true) (hk : IsRun k)
include h hk

theorem isRun_of_sameAscii : IsRun word := by
  have same : word.map Char.toLower = k.map Char.toLower := beq_iff_eq.mp h
  refine ⟨fun e => hk.1 ?_, fun c hc => ?_⟩
  · rw [e] at same
    exact List.map_eq_nil_iff.mp same.symm
  · obtain ⟨d, hd, e⟩ := List.mem_map.mp (same ▸ List.mem_map_of_mem (f := Char.toLower) hc)
    have small : isWord d.toLower = true := isWord_toLower (hk.2 d hd)
    rw [e] at small
    exact isWord_of_toLower small

theorem fold_of_sameAscii : word.map fold = k.map fold := by
  have lower : ∀ w : List Char, (∀ c ∈ w, isWord c = true) → w.map fold = asciiLower w :=
    fun w hw => List.map_congr_left fun c hc => fold_of_isWord (hw c hc)
  rw [lower word (isRun_of_sameAscii h hk).2, lower k hk.2]
  exact beq_iff_eq.mp h

end

end MarkerScan.Text
