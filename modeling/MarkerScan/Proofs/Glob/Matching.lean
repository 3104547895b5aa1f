import Mathlib.Data.List.Forall2
import MarkerScan.Glob.Basic
/-
  MarkerScan.Proofs.Glob.Matching — what the elements of a glob pattern match.

  Each element fits some texts (`Piece.Fits`), and elements match a path when it splits into
  consecutive parts, one for each element, that they fit (`Splits`).

  The marks tell of every place of a path whether a predicate holds of what stands in front
  of it (`Tells`). Moving the marks over an element turns what they tell into what holds of
  a text that splits into a front for which it held and a part that the element fits
  (`tells_move`). So the last mark tells whether the whole path splits
  (`matchesPieces_iff`).
-/

namespace MarkerScan.Glob

/-- The parts of a path that an element may stand for. -/
def Piece.Fits : Piece → List Char → Prop
  | .below, part => part = [] ∨ ∃ run, part = '/' :: run ∧ '\n' ∉ run
  | .directories, part => part = [] ∨ ∃ run, part = run ++ ['/'] ∧ '\n' ∉ run
  | .anything, part => '\n' ∉ part
  | .segment, part => '/' ∉ part
  | .one, part => ∃ c, part = [c] ∧ c ≠ '/'
  | .exactly c, part => part = [c]

/-- The path splits into consecutive parts, one for each element. -/
def Splits (pieces : List Piece) (path : List Char) : Prop :=
  ∃ parts, List.Forall₂ Piece.Fits pieces parts ∧ parts.flatten = path

theorem splits_nil {path : List Char} : Splits [] path ↔ path = [] := by
  constructor
  · rintro ⟨parts, h, rfl⟩
    cases h
    rfl
  · rintro rfl
    exact ⟨[], .nil, rfl⟩

/-! ## Texts in two parts -/

/-- The texts with a front for which `P` holds and a rest for which `Q` holds. -/
def Then (P Q : List Char → Prop) (s : List Char) : Prop := ∃ a b, s = a ++ b ∧ P a ∧ Q b

theorem splits_cons {p : Piece} {pieces : List Piece} {path : List Char} :
    Splits (p :: pieces) path ↔ Then p.Fits (Splits pieces) path := by
  constructor
  · rintro ⟨parts, h, rfl⟩
    cases h with
    | cons hp h => exact ⟨_, _, rfl, hp, _, h, rfl⟩
  · rintro ⟨a, b, rfl, hp, parts, h, rfl⟩
    exact ⟨a :: parts, .cons hp h, rfl⟩

variable {P Q R : List Char → Prop}

theorem then_assoc {s : List Char} : Then (Then P Q) R s ↔ Then P (Then Q R) s := by
  constructor
  · rintro ⟨_, c, rfl, ⟨a, b, rfl, ha, hb⟩, hc⟩
    exact ⟨a, b ++ c, by simp, ha, b, c, rfl, hb, hc⟩
  · rintro ⟨a, _, rfl, ha, b, c, rfl, hb, hc⟩
    exact ⟨a ++ b, c, by simp, ⟨a, b, rfl, ha, hb⟩, hc⟩

theorem then_congr {P' Q' : List Char → Prop} (hP : ∀ s, P s ↔ P' s) (hQ : ∀ s, Q s ↔ Q' s) {s : List Char} :
    Then P Q s ↔ Then P' Q' s := by
  simp only [Then, hP, hQ]

/-- The rest may be empty. -/
theorem then_or_nil {s : List Char} : Then P (fun b => b = [] ∨ Q b) s ↔ P s ∨ Then P Q s := by
  constructor
  · rintro ⟨a, b, rfl, ha, rfl | hb⟩
    · exact .inl (by simpa using ha)
    · exact .inr ⟨a, b, rfl, ha, hb⟩
  · rintro (h | ⟨a, b, rfl, ha, hb⟩)
    · exact ⟨s, [], by simp, h, .inl rfl⟩
    · exact ⟨a, b, rfl, ha, .inr hb⟩

/-- One character of a class. -/
def OneOf (fits : Char → Bool) (s : List Char) : Prop := ∃ c, s = [c] ∧ fits c = true

/-- A run of characters of a class. -/
def RunOf (fits : Char → Bool) (s : List Char) : Prop := ∀ c ∈ s, fits c = true

/-! ## What marks tell -/

/-- The marks tell, for each place of the text from its front on, whether the predicate holds of what is before it. -/
inductive Tells : (List Char → Prop) → List Char → List Bool → Prop
  | last {P : List Char → Prop} {m : Bool} : (m = true ↔ P []) → Tells P [] [m]
  | more {P : List Char → Prop} {c : Char} {path : List Char} {m : Bool} {marks : List Bool} :
      (m = true ↔ P []) → Tells (fun s => P (c :: s)) path marks → Tells P (c :: path) (m :: marks)

theorem tells_congr {path : List Char} {marks : List Bool} (h : ∀ s, P s ↔ Q s) (ht : Tells P path marks) :
    Tells Q path marks := by
  induction ht generalizing Q with
  | last hm => exact .last (hm.trans (h []))
  | more hm _ ih => exact .more (hm.trans (h [])) (ih fun s => h (_ :: s))

/-- Marks that differ at the front only. -/
theorem tells_of_front {path : List Char} {m m' : Bool} {marks : List Bool} (h : ∀ c s, P (c :: s) ↔ Q (c :: s))
    (hm' : m' = true ↔ Q []) (ht : Tells P path (m :: marks)) : Tells Q path (m' :: marks) := by
  cases ht with
  | last hm => exact .last hm'
  | more hm ht => exact .more hm' (tells_congr (fun s => h _ s) ht)

theorem tells_either {path : List Char} {a b : List Bool} (ha : Tells P path a) (hb : Tells Q path b) :
    Tells (fun s => P s ∨ Q s) path (either a b) := by
  induction ha generalizing Q b with
  | last hm =>
    cases hb with
    | last hm' => exact .last (by rw [Bool.or_eq_true, hm, hm'])
  | more hm _ ih =>
    cases hb with
    | more hm' hb => exact .more (by rw [Bool.or_eq_true, hm, hm']) (ih hb)

theorem tells_past {fits : Char → Bool} {path : List Char} {marks : List Bool} (ht : Tells P path marks) :
    Tells (Then P (OneOf fits)) path (past fits path marks) := by
  have none : false = true ↔ Then P (OneOf fits) [] := by
    simp [Then, OneOf]
  induction ht with
  | last hm => exact .last none
  | @more P c path m marks hm ht ih =>
    refine .more none (tells_of_front (fun d s => ?_) ?_ (ih (by simp [Then, OneOf])))
    · constructor
      · rintro ⟨a, b, h, ha, hb⟩
        exact ⟨c :: a, b, by rw [h]; rfl, ha, hb⟩
      · rintro ⟨a, b, h, ha, x, rfl, hx⟩
        cases a with
        | nil => simp at h
        | cons a0 a =>
          obtain ⟨hc, h⟩ := List.cons.inj h
          exact ⟨a, [x], h, hc ▸ ha, x, rfl, hx⟩
    · rw [Bool.and_eq_true, hm]
      constructor
      · rintro ⟨hp, hc⟩
        exact ⟨[], [c], rfl, hp, c, rfl, hc⟩
      · rintro ⟨a, b, h, ha, x, rfl, hx⟩
        cases a with
        | nil =>
          obtain ⟨rfl, -⟩ := List.cons.inj h
          exact ⟨ha, hx⟩
        | cons a0 a => simp at h

/-- `reached` says that a run from an earlier place goes on to this one. -/
theorem tells_alongFrom {fits : Char → Bool} {path : List Char} {m : Bool} {marks : List Bool}
    (ht : Tells P path (m :: marks)) (reached : Bool) :
    Tells (fun s => reached = true ∧ RunOf fits s ∨ Then P (RunOf fits) s) path
      ((m || reached) :: alongFrom fits (m || reached) path marks) := by
  have front : ∀ {P : List Char → Prop} {m : Bool} (reached : Bool), (m = true ↔ P []) →
      ((m || reached) = true ↔ reached = true ∧ RunOf fits [] ∨ Then P (RunOf fits) []) := by
    intro P m reached hm
    simp [Then, RunOf, hm, or_comm]
  induction path generalizing P m marks reached with
  | nil =>
    cases ht with
    | last hm => exact .last (front reached hm)
  | cons c path ih =>
    cases ht with
    | more hm ht =>
      cases marks with
      | nil => cases ht
      | cons m' marks =>
        refine .more (front reached hm) (tells_congr (fun s => ?_) (ih ht ((m || reached) && fits c)))
        have run : RunOf fits (c :: s) ↔ fits c = true ∧ RunOf fits s := by simp [RunOf]
        rw [Bool.and_eq_true, Bool.or_eq_true, hm, run]
        constructor
        · rintro (⟨⟨hp | hr, hc⟩, hs⟩ | ⟨a, b, rfl, ha, hb⟩)
          · exact .inr ⟨[], c :: s, rfl, hp, run.mpr ⟨hc, hs⟩⟩
          · exact .inl ⟨hr, hc, hs⟩
          · exact .inr ⟨c :: a, b, rfl, ha, hb⟩
        · rintro (⟨hr, hc, hs⟩ | ⟨a, b, h, ha, hb⟩)
          · exact .inl ⟨⟨.inr hr, hc⟩, hs⟩
          · cases a with
            | nil =>
              obtain rfl : c :: s = b := h
              exact .inl ⟨⟨.inl ha, (run.mp hb).1⟩, (run.mp hb).2⟩
            | cons a0 a =>
              obtain ⟨rfl, rfl⟩ := List.cons.inj h
              exact .inr ⟨a, b, rfl, ha, hb⟩

theorem tells_along {fits : Char → Bool} {path : List Char} {marks : List Bool} (ht : Tells P path marks) :
    Tells (Then P (RunOf fits)) path (along fits path marks) := by
  cases marks with
  | nil => cases ht
  | cons m marks =>
    have := @tells_alongFrom _ fits _ _ _ ht false
    rw [Bool.or_false] at this
    exact tells_congr (fun s => by simp) this

theorem tells_start (path : List Char) : Tells (· = []) path (startMarks path) := by
  have none : ∀ (path : List Char) (P : List Char → Prop), (∀ s, ¬ P s) →
      Tells P path (false :: path.map fun _ => false) := by
    intro path
    induction path with
    | nil => exact fun P h => .last (by simp [h])
    | cons c path ih => exact fun P h => .more (by simp [h]) (ih _ fun s => h _)
  cases path with
  | nil => exact .last (by simp)
  | cons c path => exact .more (by simp) (none path _ fun s h => by cases h)

theorem tells_last {path : List Char} {marks : List Bool} (ht : Tells P path marks) :
    marks.getLastD false = true ↔ P path := by
  induction ht with
  | last hm => exact hm
  | @more P c path m marks _ ht ih =>
    cases marks with
    | nil => cases ht
    | cons m' marks => simpa using ih

/-! ## Moving marks over elements -/

theorem oneOf_isSlash {s : List Char} : OneOf isSlash s ↔ s = ['/'] := by
  simp [OneOf, isSlash]

theorem runOf_notNewline {s : List Char} : RunOf notNewline s ↔ '\n' ∉ s := by
  simp only [RunOf, notNewline, bne_iff_ne]
  exact ⟨fun h hm => h _ hm rfl, fun h c hc e => h (e ▸ hc)⟩

theorem runOf_notSlash {s : List Char} : RunOf notSlash s ↔ '/' ∉ s := by
  simp only [RunOf, notSlash, bne_iff_ne]
  exact ⟨fun h hm => h _ hm rfl, fun h c hc e => h (e ▸ hc)⟩

theorem fits_below {s : List Char} :
    Piece.below.Fits s ↔ s = [] ∨ Then (OneOf isSlash) (RunOf notNewline) s := by
  refine or_congr_right ?_
  simp only [Then, oneOf_isSlash, runOf_notNewline]
  constructor
  · rintro ⟨run, rfl, h⟩
    exact ⟨['/'], run, rfl, rfl, h⟩
  · rintro ⟨_, run, rfl, rfl, h⟩
    exact ⟨run, rfl, h⟩

theorem fits_directories {s : List Char} :
    Piece.directories.Fits s ↔ s = [] ∨ Then (RunOf notNewline) (OneOf isSlash) s := by
  refine or_congr_right ?_
  simp only [Then, oneOf_isSlash, runOf_notNewline]
  constructor
  · rintro ⟨run, rfl, h⟩
    exact ⟨run, ['/'], rfl, h, rfl⟩
  · rintro ⟨run, _, rfl, h, rfl⟩
    exact ⟨run, rfl, h⟩

theorem fits_one {s : List Char} : Piece.one.Fits s ↔ OneOf notSlash s := by
  simp [Piece.Fits, OneOf, notSlash]

theorem fits_exactly {c : Char} {s : List Char} : (Piece.exactly c).Fits s ↔ OneOf (· == c) s := by
  simp [Piece.Fits, OneOf]

theorem tells_move {path : List Char} {marks : List Bool} (ht : Tells P path marks) (p : Piece) :
    Tells (Then P p.Fits) path (p.move path marks) := by
  cases p with
  | below =>
    refine tells_congr (fun s => ?_) (tells_either ht (tells_along (tells_past ht)))
    rw [then_congr (fun _ => Iff.rfl) (fun _ => fits_below), then_or_nil, then_assoc]
  | directories =>
    refine tells_congr (fun s => ?_) (tells_either ht (tells_past (tells_along ht)))
    rw [then_congr (fun _ => Iff.rfl) (fun _ => fits_directories), then_or_nil, then_assoc]
  | anything => exact tells_congr (fun s => then_congr (fun _ => Iff.rfl) fun _ => runOf_notNewline) (tells_along ht)
  | segment => exact tells_congr (fun s => then_congr (fun _ => Iff.rfl) fun _ => runOf_notSlash) (tells_along ht)
  | one => exact tells_congr (fun s => then_congr (fun _ => Iff.rfl) fun _ => fits_one.symm) (tells_past ht)
  | exactly c => exact tells_congr (fun s => then_congr (fun _ => Iff.rfl) fun _ => fits_exactly.symm) (tells_past ht)

theorem tells_moves {path : List Char} (pieces : List Piece) {marks : List Bool} (ht : Tells P path marks) :
    Tells (Then P (Splits pieces)) path (pieces.foldl (Piece.move path) marks) := by
  induction pieces generalizing P marks with
  | nil =>
    refine tells_congr (fun s => ?_) ht
    simp [Then, splits_nil]
  | cons p pieces ih =>
    refine tells_congr (fun s => ?_) (ih (tells_move ht p))
    rw [then_assoc, then_congr (fun _ => Iff.rfl) fun _ => splits_cons.symm]

/-- The last mark tells whether the whole path splits. -/
theorem matchesPieces_iff {pieces : List Piece} {path : List Char} :
    matchesPieces pieces path = true ↔ Splits pieces path := by
  rw [matchesPieces, tells_last (tells_moves pieces (tells_start path))]
  simp [Then]

end MarkerScan.Glob
