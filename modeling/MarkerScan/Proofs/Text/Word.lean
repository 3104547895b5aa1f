import MarkerScan.Text.Character
/-
  MarkerScan.Proofs.Text.Word — a text as words and what stands between them.

  Every text is empty, or starts with a longest word, or with a character of no word.
  `word_induction` proves a statement along these three cases; behind a character of no
  word it may also be used for what follows the word right behind that character.
  No blank is a word character (`isWord_of_isBlank`).
-/

namespace MarkerScan.Text

/-- Only word characters, and at least one. -/
def IsRun (w : List Char) : Prop := w ≠ [] ∧ ∀ c ∈ w, isWord c = true

instance (w : List Char) : Decidable (IsRun w) :=
  decidable_of_iff (w ≠ [] ∧ w.all isWord = true) (and_congr_right fun _ => List.all_eq_true)

/-- No word starts at the front. -/
def NoWordAhead (s : List Char) : Prop := ∀ c, s.head? = some c → isWord c = false

theorem noWordAhead_nil : NoWordAhead [] := fun _ h => nomatch h

theorem noWordAhead_cons {c : Char} {s : List Char} : NoWordAhead (c :: s) ↔ isWord c = false := by
  simp [NoWordAhead]

theorem noWordAhead_iff {s : List Char} : NoWordAhead s ↔ inWord s.head? = false := by
  cases s with
  | nil => exact ⟨fun _ => rfl, fun _ => noWordAhead_nil⟩
  | cons c s => exact noWordAhead_cons

theorem noWordAhead_dropWhile (s : List Char) : NoWordAhead (s.dropWhile isWord) := by
  intro c hc
  have := List.head?_dropWhile_not isWord s
  rw [hc] at this
  simpa using this

theorem takeWhile_of_noWordAhead {s : List Char} (h : NoWordAhead s) : s.takeWhile isWord = [] := by
  cases s with
  | nil => rfl
  | cons c s => rw [List.takeWhile_cons, noWordAhead_cons.mp h, if_neg (by decide)]

theorem takeWhile_run_append {w a : List Char} (hw : ∀ c ∈ w, isWord c = true) (ha : NoWordAhead a) :
    (w ++ a).takeWhile isWord = w := by
  rw [List.takeWhile_append_of_pos hw, takeWhile_of_noWordAhead ha, List.append_nil]

theorem dropWhile_run_append {w a : List Char} (hw : ∀ c ∈ w, isWord c = true) (ha : NoWordAhead a) :
    (w ++ a).dropWhile isWord = a := by
  have split := List.takeWhile_append_dropWhile (p := isWord) (l := w ++ a)
  rw [takeWhile_run_append hw ha] at split
  exact List.append_cancel_left split

theorem IsRun.takeWhile {s : List Char} (h : s.takeWhile isWord ≠ []) : IsRun (s.takeWhile isWord) :=
  ⟨h, fun c hc => List.all_eq_true.mp List.all_takeWhile c hc⟩

theorem toNat_of_isWord {c : Char} (h : isWord c = true) : 0x30 ≤ c.toNat ∧ c.toNat ≤ 0x7A := by
  have upper : c.isUpper = decide ('A'.val ≤ c.val ∧ c.val ≤ 'Z'.val) := rfl
  have lower : c.isLower = (decide ('a'.val ≤ c.val) && decide (c.val ≤ 'z'.val)) := rfl
  have digit : c.isDigit = (decide (48 ≤ c.val) && decide (c.val ≤ 57)) := rfl
  have word : isWord c = (((c.isUpper || c.isLower) || c.isDigit) || c == '_') := rfl
  simp only [word, upper, lower, digit, Bool.or_eq_true, Bool.and_eq_true, decide_eq_true_eq, beq_iff_eq,
    UInt32.le_iff_toNat_le] at h
  rcases h with ((h | h) | h) | rfl
  · simp at h; omega
  · simp at h; omega
  · simp at h; omega
  · decide

theorem isWord_of_isBlank {c : Char} (h : isBlank c = true) : isWord c = false := by
  cases hw : isWord c with
  | false => rfl
  | true =>
    have := toNat_of_isWord hw
    simp only [isBlank, Bool.or_eq_true, Bool.and_eq_true, decide_eq_true_eq, beq_iff_eq] at h
    omega

/-- A longest word at the front, or none. -/
theorem noWordAhead_or_run (s : List Char) :
    NoWordAhead s ∨ ∃ w, s = w ++ s.dropWhile isWord ∧ IsRun w ∧ NoWordAhead (s.dropWhile isWord) := by
  have split : s.takeWhile isWord ++ s.dropWhile isWord = s := List.takeWhile_append_dropWhile
  by_cases h : s.takeWhile isWord = []
  · rw [h, List.nil_append] at split
    exact Or.inl (split ▸ noWordAhead_dropWhile s)
  · exact Or.inr ⟨_, split.symm, .takeWhile h, noWordAhead_dropWhile s⟩

theorem word_induction {P : List Char → Prop} (nil : P [])
    (run : ∀ w a, IsRun w → NoWordAhead a → P a → P (w ++ a))
    (other : ∀ c s, isWord c = false → P s → P (s.dropWhile isWord) → P (c :: s)) : ∀ s, P s := by
  have key : ∀ n (s : List Char), s.length ≤ n → P s := by
    intro n
    induction n with
    | zero =>
      intro s hs
      have : s = [] := List.eq_nil_of_length_eq_zero (by omega)
      rw [this]; exact nil
    | succ n ih =>
      intro s hs
      cases s with
      | nil => exact nil
      | cons c s =>
        simp only [List.length_cons] at hs
        have shorter : (s.dropWhile isWord).length ≤ s.length := (List.dropWhile_sublist isWord).length_le
        cases hc : isWord c with
        | false => exact other c s hc (ih s (by omega)) (ih _ (by omega))
        | true =>
          have hw : IsRun (c :: s.takeWhile isWord) := by
            refine ⟨by simp, fun d hd => ?_⟩
            rcases List.mem_cons.mp hd with rfl | hd
            · exact hc
            · exact List.all_eq_true.mp List.all_takeWhile d hd
          have := run _ _ hw (noWordAhead_dropWhile s) (ih _ (by omega))
          rwa [List.cons_append, List.takeWhile_append_dropWhile] at this
  exact fun s => key s.length s (Nat.le_refl _)

end MarkerScan.Text
