import MarkerScan.Proofs.Text.Blank
import MarkerScan.Proofs.Text.Pattern
import MarkerScan.Text.Search
/-
  MarkerScan.Proofs.Text.Search — the matches of a text, part by part.

  Where no match starts, the first part is the next character (`partsFrom_other`); where one
  starts, it is the match, and the parts behind it are those of the text behind it
  (`partsFrom_found`). Both say what `replaceAll` writes and what `words` gives.
-/

namespace MarkerScan.Text.Pattern

variable {p : Pattern} {b r w : List Char} {c : Char} {groups : List (List Char)}

theorem matchHere?_eq_first (p : Pattern) (b r : List Char) : p.matchHere? b r = p.first some ⟨b, r, []⟩ := by
  unfold matchHere? first
  cases p.ways ⟨b, r, []⟩ <;> rfl

theorem first_map {β γ : Type} (f : β → γ) (k : Reading → Option β) (s : Reading) :
    (p.first k s).map f = p.first (fun t => (k t).map f) s := List.map_findSome?

/-- Where all places are good to go on from, a run of a class is read to its end. -/
theorem first_many_some (fits : Char → Bool) (s : Reading) : (many fits).first some s = some (behind fits s) :=
  first_many_of_total fun _ => rfl

/-! ## One part after the other -/

theorem partsFrom_other (h : p.matchHere? b (c :: r) = none) :
    p.partsFrom b 0 (c :: r) = .other c :: p.partsFrom (c :: b) 0 r := by
  rw [partsFrom, h]

theorem partsFrom_skip (p : Pattern) (b w r : List Char) :
    p.partsFrom b w.length (w ++ r) = p.partsFrom (w.reverse ++ b) 0 r := by
  induction w generalizing b with
  | nil => rfl
  | cons d w ih =>
    rw [List.length_cons, List.cons_append, partsFrom, ih, List.reverse_cons, List.append_assoc]
    rfl

theorem partsFrom_found {s b' : List Char} (hs : s = w ++ r) (h : p.matchHere? b (c :: s) = some ⟨b', r, groups⟩) :
    p.partsFrom b 0 (c :: s) = .found groups :: p.partsFrom (w.reverse ++ c :: b) 0 r := by
  subst hs
  have read : (w ++ r).length - r.length = w.length := by rw [List.length_append, Nat.add_sub_cancel]
  rw [partsFrom, h]
  simp only
  rw [if_pos (by simp), read, partsFrom_skip]

/-! ## Runs of blanks -/

theorem blank_induction {P : List Char → Prop} (nil : P []) (other : ∀ c s, isBlank c = false → P s → P (c :: s))
    (blanks : ∀ c s, isBlank c = true → P (trimStart s) → P (c :: s)) (s : List Char) : P s := by
  suffices both : P s ∧ P (trimStart s) from both.1
  induction s with
  | nil => exact ⟨nil, nil⟩
  | cons c s ih =>
    rw [trimStart_cons]
    cases hc : isBlank c with
    | true => exact ⟨blanks c s hc ih.2, ih.2⟩
    | false => exact ⟨other c s hc ih.1, other c s hc ih.1⟩

theorem matchHere?_blanks (b : List Char) (hc : isBlank c = true) (r : List Char) :
    (seq (one isBlank) (many isBlank)).matchHere? b (c :: r) =
      some ⟨(r.takeWhile isBlank).reverse ++ c :: b, trimStart r, []⟩ := by
  rw [matchHere?_eq_first, first_seq, first_one_cons, if_pos hc, first_many_some]
  rfl

theorem matchHere?_blanks_of_not (b : List Char) (hc : isBlank c = false) (r : List Char) :
    (seq (one isBlank) (many isBlank)).matchHere? b (c :: r) = none := by
  rw [matchHere?_eq_first, first_seq, first_one_cons, hc, if_neg (by decide)]

/-- A space for each run of blanks is the collapsed text. -/
theorem replaceAll_blanks (s : List Char) : (seq (one isBlank) (many isBlank)).replaceAll [' '] s = collapse s := by
  have from_here : ∀ b, ((seq (one isBlank) (many isBlank)).partsFrom b 0 s).flatMap (Part.writtenWith [' ']) =
      collapse s := by
    induction s using blank_induction with
    | nil => exact fun _ => rfl
    | other c s hc ih =>
      intro b
      rw [partsFrom_other (matchHere?_blanks_of_not b hc s), List.flatMap_cons, ih, collapse_cons_of_not_blank hc]
      rfl
    | blanks c s hc ih =>
      intro b
      have text : s = s.takeWhile isBlank ++ trimStart s := (takeWhile_append_trimStart s).symm
      have run : AllBlank (c :: s.takeWhile isBlank) := allBlank_cons.mpr ⟨hc, allBlank_takeWhile s⟩
      rw [partsFrom_found text (matchHere?_blanks b hc s), List.flatMap_cons, ih]
      calc [' '] ++ collapse (trimStart s)
          = collapse ((c :: s.takeWhile isBlank) ++ trimStart s) :=
            (collapse_blanks run fun _ h => isBlank_head_trimStart h).symm
        _ = collapse (c :: s) := by rw [List.cons_append, takeWhile_append_trimStart]
  exact from_here []

end MarkerScan.Text.Pattern
