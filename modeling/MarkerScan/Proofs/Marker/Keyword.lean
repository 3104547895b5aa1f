import Mathlib.Data.List.Basic
import MarkerScan.Marker.Line
import MarkerScan.Proofs.Text.Folding
/-
  MarkerScan.Proofs.Marker.Keyword — what stands at the front of a text when a keyword does.

  The letters of a keyword stand at the front of a text when the text is a word that folds
  as the keyword does and a rest (`sameLetters?_eq_some_iff`); there is at most one such
  word. Letters outside the folding stand there only as they are
  (`sameLetters?_of_outsideFolding`). Usable keywords are not empty and start with no
  blank (`startsSolid_of_mem_usable`).
-/

namespace MarkerScan.Marker

open Text

theorem sameLetters?_eq_some_iff {ks s m r : List Char} :
    sameLetters? ks s = some (m, r) ↔ s = m ++ r ∧ m.map fold = ks.map fold := by
  induction ks generalizing s m with
  | nil =>
    simp only [sameLetters?, Option.some.injEq, Prod.mk.injEq, List.map_nil, List.map_eq_nil_iff]
    constructor
    · rintro ⟨rfl, rfl⟩; exact ⟨rfl, rfl⟩
    · rintro ⟨h, rfl⟩; exact ⟨rfl, by simpa using h⟩
  | cons k ks ih =>
    cases s with
    | nil =>
      simp only [sameLetters?, reduceCtorEq, false_iff, not_and]
      intro h hm
      have : m = [] := (List.append_eq_nil_iff.mp h.symm).1
      simp [this] at hm
    | cons c s =>
      simp only [sameLetters?]
      constructor
      · intro h
        split at h
        · rename_i hc
          obtain ⟨⟨m', r'⟩, hm, he⟩ := Option.map_eq_some_iff.mp h
          obtain ⟨rfl, rfl⟩ := Prod.mk.inj he
          obtain ⟨rfl, hf⟩ := ih.mp hm
          refine ⟨rfl, ?_⟩
          rw [List.map_cons, List.map_cons, hf, ← (beq_iff_eq.mp hc : fold k = fold c)]
        · cases h
      · rintro ⟨hs, hm⟩
        cases m with
        | nil => simp at hm
        | cons d m =>
          rw [List.cons_append] at hs
          obtain ⟨rfl, rfl⟩ := List.cons.inj hs
          obtain ⟨hc, hf⟩ := List.cons.inj hm
          rw [if_pos (by rw [sameLetter, hc, beq_self_eq_true]), ih.mpr ⟨rfl, hf⟩]
          rfl

/-- Letters that folding leaves alone are read as they are. -/
theorem sameLetters?_of_outsideFolding {ks : List Char} (h : ∀ k ∈ ks, outsideFolding k.toNat = true) (s : List Char) :
    sameLetters? ks s = (ks.isPrefixOf? s).map fun r => (ks, r) := by
  induction ks generalizing s with
  | nil => simp [sameLetters?, List.isPrefixOf?]
  | cons k ks ih =>
    cases s with
    | nil => simp [sameLetters?, List.isPrefixOf?]
    | cons c s =>
      have hk := sameLetter_iff_eq (h k (by simp)) c
      by_cases e : k = c
      · rw [sameLetters?, if_pos (hk.mpr e), ih (fun d hd => h d (by simp [hd])) s, List.isPrefixOf?, e]
        simp only [beq_self_eq_true, if_true, Option.map_map]
        rfl
      · rw [sameLetters?, if_neg (fun hc => e (hk.mp hc)), List.isPrefixOf?]
        simp [e]

theorem keywordAt?_eq_some_iff {k s m r : List Char} :
    keywordAt? k s = some (m, r) ↔ s = m ++ r ∧ m.map fold = k.map fold ∧ endsWord k m r = true := by
  simp only [keywordAt?]
  constructor
  · intro h
    split at h
    · rename_i m' r' hs
      split at h
      · rename_i he
        obtain ⟨rfl, rfl⟩ := Prod.mk.inj (Option.some.inj h)
        obtain ⟨h1, h2⟩ := sameLetters?_eq_some_iff.mp hs
        exact ⟨h1, h2, he⟩
      · cases h
    · cases h
  · rintro ⟨h1, h2, he⟩
    rw [sameLetters?_eq_some_iff.mpr ⟨h1, h2⟩]
    simp only [he, if_true]

/-- There is a first character, and it is no blank. -/
def StartsSolid (s : List Char) : Prop := ∃ c rest, s = c :: rest ∧ isBlank c = false

theorem startsSolid_of_mem_usable {keywords : List (List Char)} {k : List Char} (h : k ∈ usable keywords) :
    StartsSolid k := by
  obtain ⟨hk, hne⟩ := List.mem_filter.mp h
  obtain ⟨e, -, rfl⟩ := List.mem_map.mp hk
  cases ht : trim e with
  | nil => rw [ht] at hne; cases hne
  | cons c rest => exact ⟨c, rest, rfl, isBlank_head_trim (s := e) (by rw [ht]; rfl)⟩

/-- Folding tells no blank from another character apart, so a spelling of a keyword starts as the keyword does. -/
theorem startsSolid_of_folds {k m : List Char} (hk : StartsSolid k) (hm : m.map fold = k.map fold) :
    StartsSolid m := by
  obtain ⟨c, ks, rfl, hc⟩ := hk
  cases m with
  | nil => cases hm
  | cons d rest =>
    have hf : fold d = fold c := (List.cons.inj hm).1
    exact ⟨d, rest, rfl, by rw [← hc]; exact isBlank_of_sameLetter (by rw [sameLetter, hf, beq_self_eq_true])⟩

end MarkerScan.Marker
