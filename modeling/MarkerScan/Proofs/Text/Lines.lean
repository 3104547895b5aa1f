import Mathlib.Data.List.Basic
import MarkerScan.Text.Split
/-
  MarkerScan.Proofs.Text.Lines — the lines of a text that a line feed parts in two.

  A separator parts the pieces of a text (`split_append`), and joining puts it between them
  (`join_cons`), so texts that are joined are cut as each of them is (`split_join_flatMap`)
  and pieces that are joined are cut apart again (`split_join`). The lines behind a line feed
  are those of what stands behind it (`lines_append`). What stands before it has the lines it
  has by itself, and one more when nothing stands between its last line feed and this one
  (`map_dropReturn_split`). Only a carriage return at its end would make a difference.
-/

namespace MarkerScan.Text

variable {sep : Char}

theorem split_append (sep : Char) (a b : List Char) : split sep (a ++ sep :: b) = split sep a ++ split sep b := by
  induction a with
  | nil => exact split_cons_sep sep b
  | cons c a ih =>
    by_cases hc : c = sep
    · subst hc
      rw [List.cons_append, split_cons_sep, ih, split_cons_sep, List.cons_append]
    · obtain ⟨p, ps, hs, hcons⟩ := split_cons_of_ne hc a
      obtain ⟨q, qs, ht, hcons'⟩ := split_cons_of_ne hc (a ++ sep :: b)
      rw [ih, hs, List.cons_append] at ht
      obtain ⟨rfl, rfl⟩ := List.cons.inj ht
      rw [List.cons_append, hcons', hcons, List.cons_append]

theorem split_of_no_sep {a : List Char} (ha : sep ∉ a) : split sep a = [a] := by
  induction a with
  | nil => rfl
  | cons c a ih =>
    rw [List.mem_cons, not_or] at ha
    obtain ⟨p, ps, hs, hc⟩ := split_cons_of_ne (Ne.symm ha.1) a
    rw [ih ha.2] at hs
    obtain ⟨rfl, rfl⟩ := List.cons.inj hs
    exact hc

theorem join_cons_cons (sep : Char) (p q : List Char) (pieces : List (List Char)) :
    join sep (p :: q :: pieces) = p ++ sep :: join sep (q :: pieces) := by
  simp [join, List.intercalate]

theorem join_cons (sep : Char) (p : List Char) (pieces : List (List Char)) :
    join sep (p :: pieces) = p ++ pieces.flatMap (sep :: ·) := by
  induction pieces generalizing p with
  | nil => simp [join]
  | cons q pieces ih =>
    rw [join_cons_cons, ih, List.flatMap_cons]
    rfl

/-- Texts that are joined are cut as each of them is. -/
theorem split_join_flatMap {texts : List (List Char)} (hne : texts ≠ []) :
    split sep (join sep texts) = texts.flatMap (split sep) := by
  induction texts with
  | nil => exact absurd rfl hne
  | cons p texts ih =>
    cases texts with
    | nil => simp [join]
    | cons q texts => rw [join_cons_cons, split_append, ih (List.cons_ne_nil q texts), ← List.flatMap_cons]

/-- Pieces without the separator are what their text is cut into. -/
theorem split_join {pieces : List (List Char)} (hne : pieces ≠ []) (h : ∀ p ∈ pieces, sep ∉ p) :
    split sep (join sep pieces) = pieces := by
  rw [split_join_flatMap hne, List.flatMap_congr fun p hp => split_of_no_sep (h p hp)]
  exact List.flatMap_singleton' pieces

theorem mem_of_mem_split {c : Char} {s p : List Char} (hp : p ∈ split sep s) (hc : c ∈ p) : c ∈ s ∧ c ≠ sep := by
  induction s generalizing p with
  | nil =>
    rw [split_nil, List.mem_singleton] at hp
    rw [hp] at hc
    cases hc
  | cons x s ih =>
    by_cases hx : x = sep
    · subst hx
      rw [split_cons_sep] at hp
      rcases List.mem_cons.mp hp with rfl | hp
      · cases hc
      · exact (ih hp hc).imp_left (List.mem_cons_of_mem x)
    · obtain ⟨q, qs, hs, hcons⟩ := split_cons_of_ne hx s
      rw [hs] at ih
      rw [hcons] at hp
      rcases List.mem_cons.mp hp with rfl | hp
      · rcases List.mem_cons.mp hc with rfl | hc
        · exact ⟨List.mem_cons_self, hx⟩
        · exact (ih List.mem_cons_self hc).imp_left (List.mem_cons_of_mem x)
      · exact (ih (List.mem_cons_of_mem _ hp) hc).imp_left (List.mem_cons_of_mem x)

theorem not_mem_of_mem_split {s p : List Char} (hp : p ∈ split sep s) : sep ∉ p :=
  fun hc => (mem_of_mem_split hp hc).2 rfl

theorem length_split (sep : Char) (s : List Char) : (split sep s).length = s.count sep + 1 := by
  induction s with
  | nil => rfl
  | cons c s ih =>
    by_cases hc : c = sep
    · subst hc
      rw [split_cons_sep, List.length_cons, ih, List.count_cons_self]
    · obtain ⟨p, ps, hs, hcons⟩ := split_cons_of_ne hc s
      rw [hs] at ih
      rw [hcons, List.count_cons_of_ne hc, ← ih]
      rfl

/-- The last piece stands at the end of the text. -/
theorem exists_front_split (sep : Char) (s : List Char) : ∃ front, s = front ++ (split sep s).getLastD [] := by
  induction s with
  | nil => exact ⟨[], rfl⟩
  | cons c s ih =>
    obtain ⟨front, hf⟩ := ih
    by_cases hc : c = sep
    · subst hc
      obtain ⟨p, ps, hs⟩ := List.exists_cons_of_ne_nil (split_ne_nil c s)
      rw [hs] at hf
      refine ⟨c :: front, ?_⟩
      rw [split_cons_sep, hs, List.cons_append]
      exact congrArg _ hf
    · obtain ⟨p, ps, hs, hcons⟩ := split_cons_of_ne hc s
      rw [hcons]
      cases ps with
      | nil =>
        have whole := join_split sep s
        rw [hs, join, List.intercalate_singleton] at whole
        exact ⟨[], by rw [← whole]; rfl⟩
      | cons q ps => exact ⟨c :: front, by rw [hs] at hf; exact congrArg _ hf⟩

theorem getLastD_append {α : Type} (l : List α) {m : List α} (hm : m ≠ []) (d : α) :
    (l ++ m).getLastD d = m.getLastD d := by
  rw [List.getLastD_eq_getLast?, List.getLastD_eq_getLast?, List.getLast?_append_of_ne_nil _ hm]

theorem lines_append (a b : List Char) : lines (a ++ '\n' :: b) = (split '\n' a).map dropReturn ++ lines b := by
  have hne := split_ne_nil '\n' b
  simp only [lines, split_append, List.dropLast_append_of_ne_nil hne, getLastD_append _ hne, List.map_append,
    List.append_assoc]

/-- A text that a line feed follows has an empty line more if it has nothing behind its last line feed. -/
theorem map_dropReturn_split {a : List Char} (ha : a.getLast? ≠ some '\r') :
    (split '\n' a).map dropReturn = lines a ++ if ((split '\n' a).getLastD []).isEmpty then [[]] else [] := by
  have hne := split_ne_nil '\n' a
  have parts : split '\n' a = (split '\n' a).dropLast ++ [(split '\n' a).getLastD []] := by
    rw [List.getLastD_eq_getLast?, List.getLast?_eq_some_getLast hne, Option.getD_some, List.dropLast_append_getLast]
  obtain ⟨front, hf⟩ := exists_front_split '\n' a
  simp only [lines]
  generalize (split '\n' a).getLastD [] = last at *
  generalize (split '\n' a).dropLast = pieces at *
  rw [parts, List.map_append, List.append_assoc]
  congr 1
  cases last with
  | nil => rfl
  | cons c last =>
    have : (c :: last).getLast? ≠ some '\r' := by
      rwa [hf, List.getLast?_append_of_ne_nil _ (List.cons_ne_nil _ _)] at ha
    simp [dropReturn, this]

end MarkerScan.Text
