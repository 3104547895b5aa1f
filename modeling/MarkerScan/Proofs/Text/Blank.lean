import MarkerScan.Text.Character
/-
  MarkerScan.Proofs.Text.Blank — what trimming takes away and what it leaves.

  - A text is its blanks in front followed by what `trimStart` leaves, which starts with no
    blank (`takeWhile_append_trimStart`, `isBlank_head_trimStart`); putting blanks in front of
    such a text and trimming them gives it back (`trimStart_append`).
  - Nothing is left of a text exactly when all of it is blank (`trim_eq_nil_iff`), and
    otherwise the trimmed text starts with no blank (`isBlank_head_trim`).
  - What trimming takes from the ends are blanks (`exists_trim_append`), and it leaves alone
    exactly the texts with no blank at either end (`trim_eq_self_iff`).
  - A run of blanks in front of a text that starts with none collapses to one space
    (`collapse_blanks`).
  - Trimming and collapsing take blanks only (`filter_trim`, `filter_collapse`).
-/

namespace MarkerScan.Text

/-- Only blanks. -/
def AllBlank (s : List Char) : Prop := ∀ c ∈ s, isBlank c = true

instance (s : List Char) : Decidable (AllBlank s) := decidable_of_iff (s.all isBlank = true) List.all_eq_true

theorem allBlank_nil : AllBlank [] := by simp [AllBlank]

theorem allBlank_cons {c : Char} {s : List Char} : AllBlank (c :: s) ↔ isBlank c = true ∧ AllBlank s := by
  simp [AllBlank]

theorem AllBlank.append {a b : List Char} (ha : AllBlank a) (hb : AllBlank b) : AllBlank (a ++ b) :=
  fun c hc => (List.mem_append.mp hc).elim (ha c) (hb c)

/-! ## Blanks in front -/

theorem takeWhile_append_trimStart (s : List Char) : s.takeWhile isBlank ++ trimStart s = s :=
  List.takeWhile_append_dropWhile

theorem allBlank_takeWhile (s : List Char) : AllBlank (s.takeWhile isBlank) :=
  fun c hc => List.all_eq_true.mp List.all_takeWhile c hc

theorem trimStart_of_not_blank {s : List Char} (h : ∀ c, s.head? = some c → isBlank c = false) : trimStart s = s := by
  cases s with
  | nil => rfl
  | cons c s => rw [trimStart_cons, h c rfl, if_neg (by decide)]

theorem trimStart_append {g s : List Char} (hg : AllBlank g) (hs : ∀ c, s.head? = some c → isBlank c = false) :
    trimStart (g ++ s) = s := by
  induction g with
  | nil => exact trimStart_of_not_blank hs
  | cons d g ih =>
    obtain ⟨hd, hg⟩ := allBlank_cons.mp hg
    rw [List.cons_append, trimStart_cons, if_pos hd]
    exact ih hg

theorem isBlank_head_trimStart {s : List Char} {c : Char} (h : (trimStart s).head? = some c) : isBlank c = false := by
  induction s with
  | nil => cases h
  | cons d s ih =>
    rw [trimStart_cons] at h
    split at h
    · exact ih h
    · rename_i hd
      have : d = c := by simpa using h
      simpa [this] using hd

theorem trimStart_eq_nil_iff {s : List Char} : trimStart s = [] ↔ AllBlank s := by
  induction s with
  | nil => exact ⟨fun _ => allBlank_nil, fun _ => rfl⟩
  | cons c s ih =>
    rw [trimStart_cons, allBlank_cons]
    cases hc : isBlank c
    · simp
    · simpa using ih

theorem trimStart_trimStart (s : List Char) : trimStart (trimStart s) = trimStart s :=
  trimStart_of_not_blank fun _ h => isBlank_head_trimStart h

/-! ## Blanks at the end, and at both ends -/

theorem trimEnd_cons_of_not_blank {c : Char} (h : isBlank c = false) (s : List Char) :
    trimEnd (c :: s) = c :: trimEnd s := by
  rw [trimEnd_cons, keepBefore, h, Bool.and_false, if_neg (by decide)]

theorem trimEnd_eq_nil_iff {s : List Char} : trimEnd s = [] ↔ AllBlank s := by
  induction s with
  | nil => exact ⟨fun _ => allBlank_nil, fun _ => rfl⟩
  | cons c s ih =>
    rw [trimEnd_cons, keepBefore, allBlank_cons, ← ih]
    cases hc : isBlank c <;> simp

theorem trim_eq_nil_iff {s : List Char} : trim s = [] ↔ AllBlank s := by
  rw [trim, trimEnd_eq_nil_iff, ← trimStart_eq_nil_iff, trimStart_trimStart, trimStart_eq_nil_iff]

theorem trim_trimStart (s : List Char) : trim (trimStart s) = trim s := by
  rw [trim, trimStart_trimStart, trim]

theorem trim_cons_of_not_blank {c : Char} (h : isBlank c = false) (s : List Char) :
    trim (c :: s) = c :: trimEnd s := by
  rw [trim, trimStart_cons, h, if_neg (by decide), trimEnd_cons_of_not_blank h]

theorem isBlank_head_trim {s : List Char} {c : Char} (h : (trim s).head? = some c) : isBlank c = false := by
  cases hs : trimStart s with
  | nil => simp [trim, hs, trimEnd] at h
  | cons d t =>
    have hd : isBlank d = false := isBlank_head_trimStart (s := s) (by rw [hs]; rfl)
    rw [trim, hs, trimEnd_cons_of_not_blank hd] at h
    have : d = c := by simpa using h
    rwa [← this]

theorem trimEnd_append (front : List Char) {s : List Char} (h : trimEnd s ≠ []) : trimEnd (front ++ s) = front ++ trimEnd s := by
  induction front with
  | nil => rfl
  | cons c front ih =>
    have some_left : (front ++ trimEnd s).isEmpty = false := by simp [h]
    rw [List.cons_append, trimEnd_cons, ih, keepBefore, some_left, Bool.false_and, if_neg (by decide)]
    rfl

/-- Blanks behind a text are trimmed with its own. -/
theorem trimEnd_append_blanks (s : List Char) {gap : List Char} (hg : AllBlank gap) : trimEnd (s ++ gap) = trimEnd s := by
  induction s with
  | nil => exact trimEnd_eq_nil_iff.mpr hg
  | cons c s ih => rw [List.cons_append, trimEnd_cons, ih, ← trimEnd_cons]

/-- What is trimmed at the end are blanks. -/
theorem exists_trimEnd_append (s : List Char) : ∃ trail, AllBlank trail ∧ trimEnd s ++ trail = s := by
  induction s with
  | nil => exact ⟨[], allBlank_nil, rfl⟩
  | cons c s ih =>
    obtain ⟨trail, ht, hs⟩ := ih
    rw [trimEnd_cons, keepBefore]
    split
    · rename_i gone
      simp only [Bool.and_eq_true, List.isEmpty_iff] at gone
      exact ⟨c :: s, allBlank_cons.mpr ⟨gone.2, trimEnd_eq_nil_iff.mp gone.1⟩, rfl⟩
    · exact ⟨trail, ht, by rw [List.cons_append, hs]⟩

theorem exists_trim_append (s : List Char) :
    ∃ front trail, AllBlank front ∧ AllBlank trail ∧ front ++ (trim s ++ trail) = s := by
  obtain ⟨trail, ht, hs⟩ := exists_trimEnd_append (trimStart s)
  refine ⟨s.takeWhile isBlank, trail, allBlank_takeWhile s, ht, ?_⟩
  rw [trim, hs]
  exact takeWhile_append_trimStart s

theorem trimEnd_isPrefix (s : List Char) : trimEnd s <+: s := by
  obtain ⟨trail, -, hs⟩ := exists_trimEnd_append s
  exact ⟨trail, hs⟩

theorem trim_isInfix (s : List Char) : trim s <:+: s :=
  (trimEnd_isPrefix (trimStart s)).isInfix.trans (List.dropWhile_suffix isBlank).isInfix

theorem isBlank_getLast_trimEnd {s : List Char} {c : Char} (h : (trimEnd s).getLast? = some c) : isBlank c = false := by
  induction s with
  | nil => cases h
  | cons d s ih =>
    rw [trimEnd_cons, keepBefore] at h
    split at h
    · cases h
    · rename_i kept
      cases ht : trimEnd s with
      | nil =>
        rw [ht] at h kept
        have same : d = c := by simpa using h
        simpa [same] using kept
      | cons e t =>
        rw [ht, List.getLast?_cons_cons, ← ht] at h
        exact ih h

/-- Trimming leaves alone exactly the texts with no blank at either end. -/
theorem trim_eq_self_iff {s : List Char} :
    trim s = s ↔ (∀ c, s.head? = some c → isBlank c = false) ∧ ∀ c, s.getLast? = some c → isBlank c = false := by
  constructor
  · intro h
    exact ⟨fun c hc => isBlank_head_trim (s := s) (by rwa [h]),
      fun c hc => isBlank_getLast_trimEnd (s := trimStart s) (by rw [← hc]; exact congrArg _ h)⟩
  · intro ⟨front, back⟩
    rw [trim, trimStart_of_not_blank front]
    obtain ⟨trail, ht, hs⟩ := exists_trimEnd_append s
    cases hl : trail.getLast? with
    | none => rw [← List.append_nil (trimEnd s), ← List.getLast?_eq_none_iff.mp hl, hs]
    | some c =>
      -- The last blank of the trail would be the last character of the text.
      have last : s.getLast? = some c := by rw [← hs, List.getLast?_append, hl]; rfl
      have solid := back c last
      rw [ht c (List.mem_of_getLast? hl)] at solid
      cases solid

/-! ## One space for a run of blanks -/

theorem collapse_cons_of_not_blank {c : Char} (hc : isBlank c = false) (s : List Char) : collapse (c :: s) = c :: collapse s := by
  rw [collapse_cons, collapseBefore, hc, if_neg (by decide)]

theorem collapse_blanks {gap s : List Char} (hg : AllBlank gap) (hs : ∀ c, s.head? = some c → isBlank c = false) :
    collapse (gap ++ s) = (if gap = [] then [] else [' ']) ++ collapse s := by
  have first : (collapse s).head? ≠ some ' ' := by
    cases s with
    | nil => exact fun h => nomatch h
    | cons c s =>
      have hc : isBlank c = false := hs c rfl
      rw [collapse_cons_of_not_blank hc s]
      intro h
      rw [Option.some.inj h] at hc
      exact absurd hc (by decide)
  induction gap with
  | nil => rfl
  | cons c gap ih =>
    obtain ⟨hc, hg⟩ := allBlank_cons.mp hg
    rw [List.cons_append, collapse_cons, collapseBefore, if_pos hc, ih hg, if_neg (List.cons_ne_nil c gap)]
    by_cases h : gap = []
    · rw [if_pos h, List.nil_append, if_neg first]
      rfl
    · rw [if_neg h]
      rfl

/-! ## What is not blank stays -/

theorem filter_trimStart (s : List Char) : (trimStart s).filter (!isBlank ·) = s.filter (!isBlank ·) := by
  induction s with
  | nil => rfl
  | cons c s ih =>
    rw [trimStart_cons]
    cases hc : isBlank c
    · simp
    · simpa [List.filter_cons, hc] using ih

theorem filter_trimEnd (s : List Char) : (trimEnd s).filter (!isBlank ·) = s.filter (!isBlank ·) := by
  induction s with
  | nil => rfl
  | cons c s ih =>
    rw [trimEnd_cons, keepBefore]
    split
    · rename_i h
      simp only [Bool.and_eq_true, List.isEmpty_iff] at h
      rw [List.filter_cons, h.2, ← ih, h.1]
      rfl
    · rw [List.filter_cons, List.filter_cons, ih]

theorem filter_trim (s : List Char) : (trim s).filter (!isBlank ·) = s.filter (!isBlank ·) := by
  rw [trim, filter_trimEnd, filter_trimStart]

theorem filter_collapse (s : List Char) : (collapse s).filter (!isBlank ·) = s.filter (!isBlank ·) := by
  induction s with
  | nil => rfl
  | cons c s ih =>
    rw [collapse_cons, collapseBefore]
    cases hc : isBlank c
    · simp [hc, ih]
    · rw [if_pos rfl, List.filter_cons, hc]
      split
      · exact ih
      · simpa [List.filter_cons, isBlank_space] using ih

end MarkerScan.Text
