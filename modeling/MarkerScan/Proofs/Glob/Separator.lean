import MarkerScan.Proofs.Glob.Pattern
/-
  MarkerScan.Proofs.Glob.Separator — a `**/` inside of a name.

  A pattern whose last character is neither `/` nor `*` is taken apart in the same way
  whatever stands behind it (`cut_append`). So a `**/` behind such a pattern is an element
  of its own, and what it fits is nothing at all or a run with a `/` at its end, as at the
  front of a name: the paths that are accepted are those with the `/` and those in which the
  two sides stand next to each other (`accepts_inner_directories`).

  Of the second kind there is always one without the first: a shortest text that the two
  sides match (`least`) has no place for a `/` more. Only patterns that match no path at
  all, those with a backslash, have none.
-/

namespace MarkerScan.Glob

/-! ## Where a pattern can be cut in two -/

/-- No element of the pattern goes on into what stands behind it. -/
def Ends (pattern : List Char) : Prop := ∀ front c, pattern = front ++ [c] → c ≠ '/' ∧ c ≠ '*'

theorem Ends.of_cons {c : Char} {s : List Char} (h : Ends (c :: s)) : Ends s :=
  fun front d hs => h (c :: front) d (congrArg (c :: ·) hs)

/-- What comes next is still inside of the pattern: a star is not its end. -/
theorem Ends.head? {c : Char} {s more : List Char} (h : Ends ('*' :: s)) (hs : s.head? ≠ some c) :
    (s ++ more).head? ≠ some c := by
  cases s with
  | nil => exact absurd rfl (h [] '*' rfl).2
  | cons x s => exact hs

theorem cut_append {s more : List Char} {pieces rest : List Piece} (hs : Cut s pieces) (hend : Ends s)
    (hmore : Cut more rest) : Cut (s ++ more) (pieces ++ rest) := by
  induction hs with
  | done => exact hmore
  | ending => exact absurd rfl (hend ['/', '*'] '*' rfl).2
  | directories _ ih => exact .directories (ih hend.of_cons.of_cons.of_cons)
  | anything hslash _ ih => exact .anything (hend.of_cons.head? hslash) (ih hend.of_cons.of_cons)
  | segment hstar _ ih => exact .segment (hend.head? hstar) (ih hend.of_cons)
  | one _ ih => exact .one (ih hend.of_cons)
  | @exactly c s pieces hlast hstar hmark _ ih =>
    refine .exactly (fun h => ?_) hstar hmark (ih hend.of_cons)
    -- A `/**` at the end of all would have the last character of this pattern in it.
    obtain ⟨front, d, hd⟩ : ∃ front d, c :: s = front ++ [d] :=
      ⟨_, _, (List.dropLast_append_getLast (List.cons_ne_nil c s)).symm⟩
    have mem : d ∈ ['/', '*', '*'] := by
      refine h ▸ List.mem_append_left more (?_ : d ∈ c :: s)
      rw [hd]
      exact List.mem_concat_self
    obtain ⟨hslash, hnostar⟩ := hend front d hd
    simp [hslash, hnostar] at mem

theorem splits_append {pieces rest : List Piece} {path : List Char} :
    Splits (pieces ++ rest) path ↔ Then (Splits pieces) (Splits rest) path := by
  induction pieces generalizing path with
  | nil => simp [Then, splits_nil]
  | cons p pieces ih =>
    rw [List.cons_append, splits_cons, then_congr (fun _ => Iff.rfl) (fun _ => ih), ← then_assoc]
    exact then_congr (fun _ => splits_cons.symm) fun _ => Iff.rfl

/-! ## Parts of a path -/

theorem no_backslash_normalize (path : List Char) : '\\' ∉ normalize path := by
  intro h
  obtain ⟨c, -, hc⟩ := List.mem_map.mp h
  split at hc
  · cases hc
  · contradiction

/-- A part of what a path is matched as is matched as it stands. -/
theorem normalize_of_part {path part : List Char} (h : part <:+: normalize path) : normalize part = part :=
  normalize_of_no_backslash fun hm => no_backslash_normalize path (h.subset hm)

theorem accepts_part_iff {g : Glob} {path part : List Char} (h : part <:+: normalize path) :
    g.accepts part = true ↔ Splits g.pieces part := by
  rw [accepts, matchesPieces_iff, normalize_of_part h]

/-! ## What is left of an accepted pattern -/

theorem compile?_eq_some_iff [SizeLimit] {pattern : List Char} {pieces : List Piece} (hcut : Cut pattern pieces) :
    compile? pattern = some ⟨pieces⟩ ↔ SizeLimit.fits pieces = true := by
  obtain rfl := cut_iff.mp hcut
  simp [compile?]

/-! ## What a `**/` inside of a name matches -/

/-- The path is a text for each side with a `/` between them. -/
def Apart (left right : Glob) (path : List Char) : Prop :=
  ∃ x y, normalize path = x ++ '/' :: y ∧ left.accepts x = true ∧ right.accepts y = true

/-- The path is a text for each side with nothing between them. -/
def Joined (left right : Glob) (path : List Char) : Prop :=
  ∃ x y, normalize path = x ++ y ∧ left.accepts x = true ∧ right.accepts y = true

variable {pieces rest : List Piece} {path : List Char}

theorem splits_singleton {p : Piece} {part : List Char} : Splits [p] part ↔ p.Fits part := by
  rw [splits_cons]
  simp [Then, splits_nil]

/-- Nothing stands for the `**/`, or a run for the `**` and a `/`. -/
theorem splits_inner_directories :
    Splits (pieces ++ .directories :: rest) path ↔
      (∃ x y, path = x ++ '/' :: y ∧ Splits (pieces ++ [.anything]) x ∧ Splits rest y) ∨
        ∃ x y, path = x ++ y ∧ Splits pieces x ∧ Splits rest y := by
  have run {x : List Char} : Splits (pieces ++ [.anything]) x ↔ Then (Splits pieces) ('\n' ∉ ·) x := by
    rw [splits_append]
    exact then_congr (fun _ => Iff.rfl) fun _ => splits_singleton
  simp only [splits_append, run]
  constructor
  · rintro ⟨x, s, rfl, hx, hs⟩
    obtain ⟨part, y, rfl, rfl | ⟨run, rfl, hrun⟩, hy⟩ := splits_cons.mp hs
    · exact .inr ⟨x, y, rfl, hx, hy⟩
    · exact .inl ⟨x ++ run, y, by simp, ⟨x, run, rfl, hx, hrun⟩, hy⟩
  · rintro (⟨_, y, rfl, ⟨x, run, rfl, hx, hrun⟩, hy⟩ | ⟨x, y, rfl, hx, hy⟩)
    · refine ⟨x, run ++ '/' :: y, by simp, hx, splits_cons.mpr ⟨run ++ ['/'], y, by simp, .inr ⟨run, rfl, hrun⟩, hy⟩⟩
    · exact ⟨x, y, rfl, hx, splits_cons.mpr ⟨[], y, rfl, .inl rfl, hy⟩⟩

theorem accepts_inner_directories :
    Glob.accepts ⟨pieces ++ .directories :: rest⟩ path = true ↔
      Apart ⟨pieces ++ [.anything]⟩ ⟨rest⟩ path ∨ Joined ⟨pieces⟩ ⟨rest⟩ path := by
  rw [accepts, matchesPieces_iff, splits_inner_directories]
  refine or_congr (exists₂_congr fun x y => and_congr_right fun h => ?_)
    (exists₂_congr fun x y => and_congr_right fun h => ?_)
  · have hx : x <:+: normalize path := ⟨[], '/' :: y, h.symm⟩
    have hy : y <:+: normalize path := ⟨x ++ ['/'], [], by simp [h]⟩
    rw [accepts_part_iff hx, accepts_part_iff hy]
  · have hx : x <:+: normalize path := ⟨[], y, h.symm⟩
    have hy : y <:+: normalize path := ⟨x, [], by simp [h]⟩
    rw [accepts_part_iff hx, accepts_part_iff hy]

/-! ## The shortest text that a pattern matches -/

def Piece.least : Piece → List Char
  | .one => ['a']
  | .exactly c => [c]
  | _ => []

def least (pieces : List Piece) : List Char := pieces.flatMap Piece.least

theorem fits_least (p : Piece) : p.Fits p.least := by
  cases p <;> simp [Piece.Fits, Piece.least]

theorem splits_least (pieces : List Piece) : Splits pieces (least pieces) := by
  induction pieces with
  | nil => exact splits_nil.mpr rfl
  | cons p pieces ih => exact splits_cons.mpr ⟨p.least, least pieces, List.flatMap_cons, fits_least p, ih⟩

theorem length_least_le_of_fits {p : Piece} {part : List Char} (h : p.Fits part) : p.least.length ≤ part.length := by
  cases p with
  | one => obtain ⟨c, rfl, -⟩ := h; exact Nat.le_refl 1
  | exactly c => obtain rfl := h; exact Nat.le_refl 1
  | _ => exact Nat.zero_le _

theorem length_least_le (h : Splits pieces path) : (least pieces).length ≤ path.length := by
  induction pieces generalizing path with
  | nil => exact Nat.zero_le _
  | cons p pieces ih =>
    obtain ⟨part, behind, rfl, hp, hs⟩ := splits_cons.mp h
    rw [least, List.flatMap_cons, List.length_append, List.length_append]
    exact Nat.add_le_add (length_least_le_of_fits hp) (ih hs)

/-- With a `/` between them the sides take one character more than they need. -/
theorem not_apart_least : ¬ Apart ⟨pieces ++ [.anything]⟩ ⟨rest⟩ (least pieces ++ least rest) := by
  rintro ⟨x, y, h, hx, hy⟩
  have left := length_least_le (matchesPieces_iff.mp hx)
  have right := length_least_le (matchesPieces_iff.mp hy)
  have whole := congrArg List.length h
  simp [normalize, least, Piece.least] at left right whole
  omega

/-! ## Patterns that match something -/

theorem exactly_mem_iff {pattern : List Char} (h : Cut pattern pieces) {c : Char} (hc : c ∉ ['/', '*', '?']) :
    .exactly c ∈ pieces ↔ c ∈ pattern := by
  induction h <;> simp_all

theorem mem_of_exactly {c : Char} (hc : .exactly c ∈ pieces) (h : Splits pieces path) : c ∈ path := by
  induction pieces generalizing path with
  | nil => cases hc
  | cons p pieces ih =>
    obtain ⟨part, behind, rfl, hp, hs⟩ := splits_cons.mp h
    rcases List.mem_cons.mp hc with rfl | hc
    · obtain rfl := hp
      exact List.mem_cons_self
    · exact List.mem_append_right part (ih hc hs)

theorem no_backslash_least (h : .exactly '\\' ∉ pieces) : '\\' ∉ least pieces := by
  intro hm
  obtain ⟨p, hp, hc⟩ := List.mem_flatMap.mp hm
  cases p <;> simp [Piece.least] at hc
  subst hc
  exact h hp

/-- A path has no backslash left when it is matched. -/
theorem not_accepts_of_backslash {g : Glob} (h : .exactly '\\' ∈ g.pieces) (path : List Char) :
    g.accepts path = false := by
  refine Bool.eq_false_iff.mpr fun hp => no_backslash_normalize path ?_
  exact mem_of_exactly h (matchesPieces_iff.mp hp)

/-! ## Which separators are kept -/

/-- The shortest text of both sides has no separator, unless the elements match no path. -/
theorem apart_of_accepts_iff :
    (∀ path, Glob.accepts ⟨pieces ++ .directories :: rest⟩ path = true → Apart ⟨pieces ++ [.anything]⟩ ⟨rest⟩ path) ↔
      .exactly '\\' ∈ pieces ++ .directories :: rest := by
  constructor
  · intro kept
    by_contra none
    -- Without a backslash the shortest text of all elements is a path, and the `**/` adds nothing to it.
    have whole : least (pieces ++ .directories :: rest) = least pieces ++ least rest := by
      simp [least, Piece.least]
    refine not_apart_least (kept _ ?_)
    rw [← whole, accepts, matchesPieces_iff, normalize_of_no_backslash (no_backslash_least none)]
    exact splits_least _
  · intro h path hp
    rw [not_accepts_of_backslash h] at hp
    cases hp

/-- Behind a character that is neither `/` nor `*`, a `**/` matches a run with a `/` at its end, and it also matches
    nothing at all. So a pattern has the `/` in every path that it accepts only if it accepts none. -/
theorem inner_directories_separator [SizeLimit] {a b : List Char} {last : Char} (hlast : a.getLast? = some last)
    (hslash : last ≠ '/') (hstar : last ≠ '*') {g : Glob} (hg : compile? (a ++ "**/".toList ++ b) = some g) :
    ∃ side run behind, compile? a = some side ∧ compile? (a ++ "**".toList) = some run ∧ compile? b = some behind ∧
      (∀ path, g.accepts path = true ↔ Apart run behind path ∨ Joined side behind path) ∧
      ((∀ path, g.accepts path = true → Apart run behind path) ↔ '\\' ∈ a ++ b) := by
  have hend : Ends a := by
    rintro front c rfl
    obtain rfl : c = last := by simpa using hlast
    exact ⟨hslash, hstar⟩
  have hcut : Cut (a ++ "**/".toList ++ b) (piecesOf a ++ .directories :: piecesOf b) := by
    rw [List.append_assoc]
    exact cut_append (cut_piecesOf a) hend (.directories (cut_piecesOf b))
  have hrun : Cut (a ++ "**".toList) (piecesOf a ++ [.anything]) :=
    cut_append (cut_piecesOf a) hend (.anything (by simp) .done)
  obtain ⟨pieces⟩ := g
  obtain rfl : pieces = piecesOf a ++ .directories :: piecesOf b := (pieces_of_compile? hg).trans (cut_iff.mp hcut).symm
  have whole := (compile?_eq_some_iff hcut).mp hg
  have front : SizeLimit.fits (piecesOf a) = true :=
    SizeLimit.fits_sublist (List.sublist_append_left ..) whole
  have upTo : SizeLimit.fits (piecesOf a ++ [.anything]) = true := by
    refine SizeLimit.fits_sublist ?_ (SizeLimit.fits_anything whole)
    exact List.Sublist.append_left (List.Sublist.cons_cons _ (List.nil_sublist _)) _
  have back : SizeLimit.fits (piecesOf b) = true := by
    refine SizeLimit.fits_sublist ?_ whole
    exact (List.sublist_cons_self ..).trans (List.sublist_append_right ..)
  refine ⟨⟨piecesOf a⟩, ⟨piecesOf a ++ [.anything]⟩, ⟨piecesOf b⟩, (compile?_eq_some_iff (cut_piecesOf a)).mpr front,
    (compile?_eq_some_iff hrun).mpr upTo, (compile?_eq_some_iff (cut_piecesOf b)).mpr back,
    fun path => accepts_inner_directories, ?_⟩
  rw [apart_of_accepts_iff, exactly_mem_iff hcut (by decide)]
  simp

/-- A pattern with elements on both sides: a path that has the `/`, and one that is accepted without it. -/
theorem inner_directories_separator_between_names :
    "lib".toList.getLast? = some 'b' ∧ 'b' ≠ '/' ∧ 'b' ≠ '*' ∧
    ∃ g run behind, compile? ("lib".toList ++ "**/".toList ++ "?*.rs".toList) = some g ∧
      compile? ("lib".toList ++ "**".toList) = some run ∧ compile? "?*.rs".toList = some behind ∧
      Apart run behind "lib\\x/a.rs".toList ∧ ∃ path, g.accepts path = true ∧ ¬ Apart run behind path := by
  have hlast : "lib".toList.getLast? = some 'b' := by decide
  have hg : compile? ("lib".toList ++ "**/".toList ++ "?*.rs".toList) =
      some ⟨piecesOf "lib**/?*.rs".toList⟩ := by decide
  obtain ⟨side, run, behind, hside, hrun, hbehind, either, all⟩ :=
    inner_directories_separator hlast (by decide) (by decide) hg
  refine ⟨hlast, by decide, by decide, _, run, behind, hg, hrun, hbehind, ?_, ?_⟩
  · obtain rfl : run = ⟨piecesOf "lib**".toList⟩ := Option.some.inj (hrun.symm.trans (by decide))
    obtain rfl : behind = ⟨piecesOf "?*.rs".toList⟩ := Option.some.inj (hbehind.symm.trans (by decide))
    exact ⟨"lib/x".toList, "a.rs".toList, by decide, by decide, by decide⟩
  · obtain ⟨path, h⟩ := not_forall.mp (mt all.mp (by decide))
    exact ⟨path, Classical.not_imp.mp h⟩

/-- The separator of `a**/b` is lost in the path `ab`. -/
theorem inner_directories_drop_separator :
    ∃ g, compile? ("a".toList ++ "**/".toList ++ "b".toList) = some g ∧ g.accepts "ab".toList = true ∧
      ∀ x y, normalize "ab".toList ≠ x ++ '/' :: y := by
  refine ⟨_, rfl, by decide, fun x y h => ?_⟩
  have : '/' ∈ normalize "ab".toList := by
    rw [h]
    simp
  exact absurd this (by decide)

end MarkerScan.Glob
