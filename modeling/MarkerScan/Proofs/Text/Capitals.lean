import Mathlib.Data.List.Chain
import Mathlib.Data.List.TakeWhile
import MarkerScan.Proofs.Text.Folding
import MarkerScan.Text.LetterCase
/-
  MarkerScan.Proofs.Text.Capitals — the capital of a letter and of what it folds to.

  Folding is made for comparing and capitals are made for showing, and the tables for the
  two are not inverse to one another. They agree on all but five letters (`oddCapitals`),
  the signs for ohm, kelvin and ångström among them: each of the five is a capital, so it
  stays, but it folds to a small letter with another capital.

  Proved:
  - `find?_between`: what a sorted table has on an interval is found in a part of it;
  - `upperChar_fold`: a character that is none of the five has the capital of what it folds to,
    by a check of every run of the folding against that part of the tables of capitals;
  - `upper_eq_iff`: texts with the same letters have the same capitals exactly where they differ
    in none of the five.
-/

namespace MarkerScan.Text

/-- The capitals that are not the capital of what they fold to. -/
def oddCapitals : List Char := ['\u03F4', '\u1E9E', '\u2126', '\u212A', '\u212B']

/-! ## A part of a sorted table -/

section
variable {α : Type} (first last : α → Nat)

/-- The entries of a sorted table that reach into an interval. -/
def between (lo hi : Nat) (entries : List α) : List α :=
  (entries.dropWhile fun e => Nat.blt (last e) lo).takeWhile fun e => Nat.ble (first e) hi

variable {first last}

theorem find?_between {entries : List α} (sorted : (entries.map first).Pairwise (· ≤ ·)) {p : α → Bool} {n lo hi : Nat}
    (reach : ∀ e, p e = true → first e ≤ n ∧ n ≤ last e) (hlo : lo ≤ n) (hhi : n ≤ hi) :
    (between first last lo hi entries).find? p = entries.find? p := by
  let rest := entries.dropWhile fun e => Nat.blt (last e) lo
  have in_front : (entries.takeWhile fun e => Nat.blt (last e) lo).find? p = none := by
    refine List.find?_eq_none.mpr fun e he hp => ?_
    have ends : last e < lo := Nat.blt_eq.mp (List.mem_takeWhile_imp (p := fun e => Nat.blt (last e) lo) he)
    have := (reach e hp).2
    omega
  have behind : (rest.dropWhile fun e => Nat.ble (first e) hi).find? p = none := by
    have sorted_behind : ((rest.dropWhile fun e => Nat.ble (first e) hi).map first).Pairwise (· ≤ ·) :=
      sorted.sublist (((List.dropWhile_sublist _).trans (List.dropWhile_sublist _)).map first)
    cases hs : rest.dropWhile fun e => Nat.ble (first e) hi with
    | nil => rfl
    | cons d later =>
      have starts : hi < first d := by
        have not_before := List.head?_dropWhile_not (fun e => Nat.ble (first e) hi) rest
        rw [hs] at not_before
        exact Nat.lt_of_not_le fun h => by simp [Nat.ble_eq.mpr h] at not_before
      rw [hs, List.map_cons, List.pairwise_cons] at sorted_behind
      refine List.find?_eq_none.mpr fun e he hp => ?_
      have early := (reach e hp).1
      rcases List.mem_cons.mp he with rfl | he
      · omega
      · have := sorted_behind.1 (first e) (List.mem_map_of_mem he)
        omega
  have whole : entries.find? p = rest.find? p := by
    rw [← List.takeWhile_append_dropWhile (p := fun e => Nat.blt (last e) lo) (l := entries), List.find?_append, in_front,
      Option.none_or]
  have split : rest.find? p = (between first last lo hi entries).find? p := by
    rw [← List.takeWhile_append_dropWhile (p := fun e => Nat.ble (first e) hi) (l := rest), List.find?_append, behind,
      Option.or_none]
    rfl
  rw [whole, split]

end

/-! ## The capitals by their code points -/

/-- The code points of the capital of a character, looked up in tables. -/
def upperCodes (expansions : List (Nat × List Nat)) (runs : List Run) (n : Nat) : List Nat :=
  match expansions.find? (·.1 == n) with
  | some e => e.2
  | none => match runs.find? (·.covers n) with
    | some r => [r.target + (n - r.first)]
    | none => [n]

theorem lookup_eq_find? {β : Type} (n : Nat) (l : List (Nat × β)) : l.lookup n = (l.find? (·.1 == n)).map (·.2) := by
  induction l with
  | nil => rfl
  | cons e l ih =>
    rw [List.lookup_cons, List.find?_cons, BEq.comm, ih]
    cases e.1 == n <;> rfl

theorem upperChar_eq (c : Char) : upperChar c = (upperCodes upperExpansions upperRuns c.toNat).map Char.ofNat := by
  rw [upperChar, lookup_eq_find?, upperCodes, mapRuns?]
  cases upperExpansions.find? (·.1 == c.toNat) with
  | some e => rfl
  | none =>
    cases upperRuns.find? (·.covers c.toNat) with
    | some r => rfl
    | none => simp

/-- The same, looked up in what the tables have on an interval. -/
def upperCodesIn (lo hi n : Nat) : List Nat :=
  upperCodes (between Prod.fst Prod.fst lo hi upperExpansions) (between Run.first Run.last lo hi upperRuns) n

theorem upperCodesIn_eq {lo hi n : Nat} (hlo : lo ≤ n) (hhi : n ≤ hi) :
    upperCodesIn lo hi n = upperCodes upperExpansions upperRuns n := by
  have expansions_sorted : (upperExpansions.map Prod.fst).IsChain (· ≤ ·) := by decide +kernel
  have runs_sorted : (upperRuns.map Run.first).IsChain (· ≤ ·) := by decide +kernel
  rw [upperCodesIn, upperCodes, upperCodes, find?_between expansions_sorted.pairwise (fun e he => ?_) hlo hhi,
    find?_between runs_sorted.pairwise (fun r hr => ?_) hlo hhi]
  · simp only [Run.covers, Bool.and_eq_true, decide_eq_true_eq] at hr
    exact hr.1
  · have same : e.1 = n := beq_iff_eq.mp he
    omega

/-! ## The capital of what a character folds to -/

/-- A run of the folding lands on characters, and each of them has the capital of the one moved there. -/
def keepsCapitals (r : Run) : Bool :=
  let stop := r.target + (r.last - r.first)
  (Nat.blt stop 0xD800 || Nat.blt 0xDFFF r.target && Nat.blt stop 0x110000) &&
    (List.range (r.last - r.first + 1)).all fun i =>
      !r.covers (r.first + i) || oddCapitals.any (·.toNat == r.first + i) ||
        upperCodesIn r.target stop (r.target + i) == upperCodesIn r.first r.last (r.first + i)

theorem all_keepsCapitals : foldRuns.all keepsCapitals = true := by decide +kernel

theorem upperChar_fold {c : Char} (h : c ∉ oddCapitals) : upperChar (fold c) = upperChar c := by
  rcases fold_cases c with same | ⟨r, hr, covers, moved⟩
  · rw [same]
  · have check := List.all_eq_true.mp all_keepsCapitals r hr
    simp only [keepsCapitals, Bool.and_eq_true, Bool.or_eq_true, List.all_eq_true, List.mem_range, Nat.blt_eq] at check
    obtain ⟨valid, capitals⟩ := check
    have reach := covers
    simp only [Run.covers, Bool.and_eq_true, decide_eq_true_eq] at reach
    obtain ⟨i, hi⟩ : ∃ i, c.toNat = r.first + i := ⟨c.toNat - r.first, by omega⟩
    have not_odd : ¬ oddCapitals.any (·.toNat == c.toNat) = true := by
      intro odd
      obtain ⟨d, hd, same⟩ := List.any_eq_true.mp odd
      exact h (Char.toNat_inj.mp (beq_iff_eq.mp same) ▸ hd)
    have capital := capitals i (by omega)
    rw [← hi, covers] at capital
    have same := capital.resolve_left fun e => e.elim (by decide) not_odd
    have lands : (fold c).toNat = r.target + i := by
      rw [moved, hi, Nat.add_sub_cancel_left]
      refine toNat_ofNat_of_valid ?_
      unfold Nat.isValidChar
      omega
    have there : upperCodesIn r.target (r.target + (r.last - r.first)) (r.target + i) =
        upperCodes upperExpansions upperRuns (r.target + i) := upperCodesIn_eq (Nat.le_add_right _ _) (by omega)
    have here : upperCodesIn r.first r.last c.toNat = upperCodes upperExpansions upperRuns c.toNat :=
      upperCodesIn_eq reach.1.1 reach.1.2
    rw [upperChar_eq, upperChar_eq, lands, ← there, beq_iff_eq.mp same, here]

/-! ## The capitals of texts with the same letters -/

/-- Each of the five stays, and what it folds to has a capital that starts with another character. -/
theorem odd_capital {c : Char} (h : c ∈ oddCapitals) :
    upperChar c = [c] ∧ ∃ d rest, upperChar (fold c) = d :: rest ∧ d ≠ c := by
  have check : (oddCapitals.all fun c => upperChar c == [c] && (upperChar (fold c)).head?.any (· != c)) = true := by
    decide +kernel
  have at_c := List.all_eq_true.mp check c h
  simp only [Bool.and_eq_true, beq_iff_eq] at at_c
  obtain ⟨stays, other⟩ := at_c
  cases hu : upperChar (fold c) with
  | nil => rw [hu] at other; cases other
  | cons d rest =>
    rw [hu] at other
    exact ⟨stays, d, rest, rfl, by simpa using other⟩

theorem odd_eq_of_fold {a b : Char} (ha : a ∈ oddCapitals) (hb : b ∈ oddCapitals) (h : fold a = fold b) : a = b := by
  have check : (oddCapitals.all fun a => oddCapitals.all fun b => fold a != fold b || a == b) = true := by decide +kernel
  have at_ab := List.all_eq_true.mp (List.all_eq_true.mp check a ha) b hb
  simpa [h] using at_ab

/-- The same letter has the same capital in two characters: they are one, or none of them is one of the five. -/
def SameCapital (a b : Char) : Prop := a = b ∨ a ∉ oddCapitals ∧ b ∉ oddCapitals

theorem SameCapital.upperChar_eq {a b : Char} (h : fold a = fold b) (same : SameCapital a b) :
    upperChar a = upperChar b := by
  rcases same with rfl | ⟨ha, hb⟩
  · rfl
  · rw [← upperChar_fold ha, ← upperChar_fold hb, h]

/-- With one of the five and another character the capitals part at once. -/
theorem upperChar_append_ne {a b : Char} (h : fold a = fold b) (hne : a ≠ b) (ha : a ∈ oddCapitals) (x y : List Char) :
    upperChar a ++ x ≠ upperChar b ++ y := by
  have hb : b ∉ oddCapitals := fun hb => hne (odd_eq_of_fold ha hb h)
  obtain ⟨stays, d, rest, capital, apart⟩ := odd_capital ha
  rw [stays, ← upperChar_fold hb, ← h, capital]
  exact fun e => apart (List.cons.inj e).1.symm

theorem upper_eq_iff {m k : List Char} (h : m.map fold = k.map fold) :
    upper m = upper k ↔ ∀ p ∈ m.zip k, SameCapital p.1 p.2 := by
  induction m generalizing k with
  | nil =>
    obtain rfl : k = [] := List.map_eq_nil_iff.mp h.symm
    exact ⟨fun _ p hp => absurd hp List.not_mem_nil, fun _ => rfl⟩
  | cons a m ih =>
    cases k with
    | nil => cases h
    | cons b k =>
      obtain ⟨letter, letters⟩ := List.cons.inj h
      rw [List.zip_cons_cons, List.forall_mem_cons, ← ih letters, upper, upper, List.flatMap_cons, List.flatMap_cons]
      constructor
      · intro same
        have first : SameCapital a b := by
          by_cases hab : a = b
          · exact .inl hab
          · exact .inr ⟨fun ha => upperChar_append_ne letter hab ha _ _ same,
              fun hb => upperChar_append_ne letter.symm (Ne.symm hab) hb _ _ same.symm⟩
        rw [first.upperChar_eq letter] at same
        exact ⟨first, List.append_cancel_left same⟩
      · rintro ⟨first, rest⟩
        rw [first.upperChar_eq letter]
        exact congrArg (upperChar b ++ ·) rest

end MarkerScan.Text
