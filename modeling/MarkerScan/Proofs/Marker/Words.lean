import Mathlib.Data.List.Flatten
import MarkerScan.Marker.Form
import MarkerScan.Proofs.Text.Blank
import MarkerScan.Proofs.Text.Lines
/-
  MarkerScan.Proofs.Marker.Words — the words that a list of entries stands for.

  A text lists words when they stand in it in their order, with a comma somewhere between
  each two, and with nothing but blanks and commas around them (`Lists`). A word has a
  character, no comma, and no blank at its ends (`ListWord`). So blanks inside a word belong
  to it, and blanks and commas in front of a text make no difference (`Lists.behind`).

  Every text lists exactly one list of words, that of the entry it is (`lists_iff`). Cutting
  at commas does not see where one entry ends and the next begins, so entries stand for the
  words that they list when they are joined with commas (`activeWords_join`), and words stand
  for themselves (`activeWords_eq_self`).
-/

namespace MarkerScan.Marker

open Text

theorem activeWords_append (entries more : List (List Char)) :
    activeWords (entries ++ more) = activeWords entries ++ activeWords more := by
  rw [activeWords, List.flatMap_append, List.filter_append]
  rfl

/-! ## Lists of words in a text -/

structure ListWord (w : List Char) : Prop where
  ne_nil : w ≠ []
  no_comma : ',' ∉ w
  front : ∀ c, w.head? = some c → isBlank c = false
  back : ∀ c, w.getLast? = some c → isBlank c = false

/-- Nothing but commas and blanks. -/
def IsGap (gap : List Char) : Prop := ∀ c ∈ gap, c = ',' ∨ isBlank c = true

inductive Lists : List Char → List (List Char) → Prop
  | none {gap : List Char} (hg : IsGap gap) : Lists gap []
  | last {gap w trail : List Char} (hg : IsGap gap) (hw : ListWord w) (ht : AllBlank trail) :
      Lists (gap ++ (w ++ trail)) [w]
  | more {gap w trail rest : List Char} {words : List (List Char)} (hg : IsGap gap) (hw : ListWord w)
      (ht : AllBlank trail) (h : Lists rest words) : Lists (gap ++ (w ++ trail ++ ',' :: rest)) (w :: words)

theorem IsGap.append {a b : List Char} (ha : IsGap a) (hb : IsGap b) : IsGap (a ++ b) :=
  fun c hc => (List.mem_append.mp hc).elim (ha c) (hb c)

theorem isGap_of_blank {gap : List Char} (hg : AllBlank gap) : IsGap gap := fun c hc => .inr (hg c hc)

theorem not_mem_of_allBlank {gap : List Char} (hg : AllBlank gap) : ',' ∉ gap :=
  fun hc => absurd (hg ',' hc) (by decide)

namespace Lists

variable {text : List Char} {words : List (List Char)}

theorem behind {gap : List Char} (hg : IsGap gap) (h : Lists text words) : Lists (gap ++ text) words := by
  cases h with
  | none hg' => exact .none (hg.append hg')
  | last hg' hw ht => rw [← List.append_assoc]; exact .last (hg.append hg') hw ht
  | more hg' hw ht h => rw [← List.append_assoc]; exact .more (hg.append hg') hw ht h

theorem listWord (h : Lists text words) : ∀ w ∈ words, ListWord w := by
  induction h with
  | none => exact fun w hw => nomatch hw
  | last _ hw _ => exact fun w h => List.mem_singleton.mp h ▸ hw
  | more _ hw _ _ ih => exact fun w h => (List.mem_cons.mp h).elim (fun e => e ▸ hw) (ih w)

end Lists

/-! ## The words of one entry -/

theorem ListWord.trimmed {w : List Char} (hw : ListWord w) : trim w = w := trim_eq_self_iff.mpr ⟨hw.front, hw.back⟩

theorem activeWords_comma (a b : List Char) : activeWords [a ++ ',' :: b] = activeWords [a] ++ activeWords [b] := by
  rw [← activeWords_append]
  simp [activeWords, split_append]

theorem activeWords_blank {c : Char} (hc : isBlank c = true) (s : List Char) : activeWords [c :: s] = activeWords [s] := by
  have other : c ≠ ',' := by
    intro e
    rw [e] at hc
    exact absurd hc (by decide)
  obtain ⟨p, ps, hs, hcons⟩ := split_cons_of_ne other s
  have same : trim (c :: p) = trim p := by rw [trim, trimStart_cons, if_pos hc, ← trim]
  simp [activeWords, hs, hcons, same]

theorem activeWords_gap {gap : List Char} (hg : IsGap gap) (s : List Char) :
    activeWords [gap ++ s] = activeWords [s] := by
  induction gap with
  | nil => rfl
  | cons c gap ih =>
    have behind := ih fun d hd => hg d (List.mem_cons_of_mem c hd)
    rcases hg c List.mem_cons_self with comma | blank
    · rw [comma, ← behind]
      exact activeWords_comma [] (gap ++ s)
    · rw [List.cons_append, activeWords_blank blank, behind]

/-- A piece between commas is one word, or none. -/
theorem activeWords_piece {piece : List Char} (hp : ',' ∉ piece) :
    activeWords [piece] = if trim piece = [] then [] else [trim piece] := by
  simp only [activeWords, List.flatMap_singleton, split_of_no_sep hp, List.map_singleton]
  by_cases h : trim piece = [] <;> simp [h]

theorem activeWords_word {w trail : List Char} (hw : ListWord w) (ht : AllBlank trail) :
    activeWords [w ++ trail] = [w] := by
  have alone : ',' ∉ w ++ trail := by simp [hw.no_comma, not_mem_of_allBlank ht]
  have solid : ∀ c, (w ++ trail).head? = some c → isBlank c = false := by
    intro c hc
    rw [List.head?_append_of_ne_nil w hw.ne_nil] at hc
    exact hw.front c hc
  have left : trim (w ++ trail) = w := by
    calc trim (w ++ trail)
        = trimEnd (w ++ trail) := by rw [trim, trimStart_of_not_blank solid]
      _ = trimEnd w := trimEnd_append_blanks w ht
      _ = trim w := by rw [trim, trimStart_of_not_blank hw.front]
      _ = w := hw.trimmed
  rw [activeWords_piece alone, left, if_neg hw.ne_nil]

theorem Lists.words_eq {text : List Char} {words : List (List Char)} (h : Lists text words) :
    activeWords [text] = words := by
  induction h with
  | @none gap hg =>
    have nothing := activeWords_gap hg []
    rwa [List.append_nil] at nothing
  | last hg hw ht => rw [activeWords_gap hg, activeWords_word hw ht]
  | more hg hw ht _ ih =>
    rw [activeWords_gap hg, activeWords_comma, activeWords_word hw ht, ih]
    rfl

/-- A piece between commas is blank, or a word between blanks. -/
theorem piece_cases {piece : List Char} (hp : ',' ∉ piece) :
    (AllBlank piece ∧ activeWords [piece] = []) ∨
      ∃ front w trail, AllBlank front ∧ ListWord w ∧ AllBlank trail ∧ front ++ (w ++ trail) = piece ∧
        activeWords [piece] = [w] := by
  by_cases h : trim piece = []
  · exact .inl ⟨trim_eq_nil_iff.mp h, by rw [activeWords_piece hp, if_pos h]⟩
  · obtain ⟨front, trail, hf, ht, whole⟩ := exists_trim_append piece
    have word : ListWord (trim piece) :=
      { ne_nil := h
        no_comma := fun hc => hp ((trim_isInfix piece).subset hc)
        front := fun _ hc => isBlank_head_trim hc
        back := fun _ hc => isBlank_getLast_trimEnd hc }
    exact .inr ⟨front, trim piece, trail, hf, word, ht, whole, by rw [activeWords_piece hp, if_neg h]⟩

theorem lists_piece {piece : List Char} (hp : ',' ∉ piece) : Lists piece (activeWords [piece]) := by
  rcases piece_cases hp with ⟨blank, words⟩ | ⟨front, w, trail, hf, hw, ht, rfl, words⟩
  · rw [words]
    exact .none (isGap_of_blank blank)
  · rw [words]
    exact .last (isGap_of_blank hf) hw ht

theorem Lists.comma {piece rest : List Char} {words : List (List Char)} (hp : ',' ∉ piece) (h : Lists rest words) :
    Lists (piece ++ ',' :: rest) (activeWords [piece] ++ words) := by
  rcases piece_cases hp with ⟨blank, none⟩ | ⟨front, w, trail, hf, hw, ht, rfl, one⟩
  · have gap : IsGap (piece ++ [',']) := (isGap_of_blank blank).append fun c hc => .inl (List.mem_singleton.mp hc)
    rw [none, List.append_cons]
    exact h.behind gap
  · rw [one, List.append_assoc]
    exact .more (isGap_of_blank hf) hw ht h

theorem lists_activeWords (text : List Char) : Lists text (activeWords [text]) := by
  have pieces : ∀ p ∈ split ',' text, ',' ∉ p := fun p => not_mem_of_mem_split
  rw [← join_split ',' text]
  generalize split ',' text = ps at pieces
  induction ps with
  | nil => exact lists_piece List.not_mem_nil
  | cons p ps ih =>
    cases ps with
    | nil =>
      rw [join, List.intercalate_singleton]
      exact lists_piece (pieces p List.mem_cons_self)
    | cons q ps =>
      rw [join_cons_cons, activeWords_comma]
      exact .comma (pieces p List.mem_cons_self) (ih fun x hx => pieces x (List.mem_cons_of_mem p hx))

theorem lists_iff {text : List Char} {words : List (List Char)} : Lists text words ↔ activeWords [text] = words :=
  ⟨Lists.words_eq, fun h => h ▸ lists_activeWords text⟩

/-! ## The words of many entries -/

theorem activeWords_join (entries : List (List Char)) : activeWords [join ',' entries] = activeWords entries := by
  by_cases h : entries = []
  · rw [h]
    rfl
  · rw [activeWords, List.flatMap_singleton, split_join_flatMap h, List.map_flatMap, ← activeWords]

theorem activeWords_eq_self {words : List (List Char)} (h : ∀ w ∈ words, ListWord w) : activeWords words = words := by
  have alone : ∀ w ∈ words, (split ',' w).map trim = [w] := by
    intro w hw
    rw [split_of_no_sep (h w hw).no_comma, List.map_singleton, (h w hw).trimmed]
  rw [activeWords, List.flatMap_congr alone, List.flatMap_singleton', List.filter_eq_self]
  intro w hw
  simpa using (h w hw).ne_nil

theorem listWord_of_mem_activeWords {entries : List (List Char)} {w : List Char} (h : w ∈ activeWords entries) :
    ListWord w :=
  (lists_iff.mpr (activeWords_join entries)).listWord w h

end MarkerScan.Marker
