import MarkerScan.Glob.Basic
import MarkerScan.Proofs.Glob.Translation
/-
  MarkerScan.Proofs.Glob.Pattern — what glob patterns and sets of them match.

  `Cut` says how a pattern is taken apart: from the left, at each point by the first rule
  that applies. Every pattern can be taken apart in one way, and that way gives the
  elements that are matched (`cut_iff`). A path is described by a pattern if all of it, with
  `/` for every backslash, splits along these elements (`Describes`).
-/

namespace MarkerScan

namespace Glob

/-- The elements of a pattern, each by the first rule that applies to what is left. -/
inductive Cut : List Char → List Piece → Prop
  | done : Cut [] []
  | ending : Cut ['/', '*', '*'] [.below]
  | directories {s : List Char} {pieces : List Piece} : Cut s pieces →
      Cut ('*' :: '*' :: '/' :: s) (.directories :: pieces)
  | anything {s : List Char} {pieces : List Piece} : s.head? ≠ some '/' → Cut s pieces →
      Cut ('*' :: '*' :: s) (.anything :: pieces)
  | segment {s : List Char} {pieces : List Piece} : s.head? ≠ some '*' → Cut s pieces →
      Cut ('*' :: s) (.segment :: pieces)
  | one {s : List Char} {pieces : List Piece} : Cut s pieces → Cut ('?' :: s) (.one :: pieces)
  | exactly {c : Char} {s : List Char} {pieces : List Piece} : c :: s ≠ ['/', '*', '*'] → c ≠ '*' → c ≠ '?' →
      Cut s pieces → Cut (c :: s) (.exactly c :: pieces)

theorem head?_ne_some_iff {c : Char} {s : List Char} : s.head? ≠ some c ↔ ∀ rest, s = c :: rest → False := by
  rw [ne_eq, List.head?_eq_some_iff, not_exists]

theorem cut_piecesOf (pattern : List Char) : Cut pattern (piecesOf pattern) := by
  induction pattern using piecesOf.induct with
  | case1 => exact .ending
  | case2 s ih => exact .directories ih
  | case3 s hslash ih =>
    rw [piecesOf.eq_3 s hslash]
    exact .anything (head?_ne_some_iff.mpr hslash) ih
  | case4 s hdirs hstar ih =>
    rw [piecesOf.eq_4 s hdirs hstar]
    exact .segment (head?_ne_some_iff.mpr hstar) ih
  | case5 s ih => exact .one ih
  | case6 c s hend hdirs hstars hstar hmark ih =>
    rw [piecesOf.eq_6 c s hend hdirs hstars hstar hmark]
    refine .exactly (fun h => ?_) hstar hmark ih
    obtain ⟨hc, hs⟩ := List.cons.inj h
    exact hend hc hs
  | case7 => exact .done

theorem cut_iff {pattern : List Char} {pieces : List Piece} : Cut pattern pieces ↔ pieces = piecesOf pattern := by
  refine ⟨fun h => ?_, fun h => h ▸ cut_piecesOf pattern⟩
  induction h with
  | done => rfl
  | ending => rfl
  | directories _ ih => rw [piecesOf, ih]
  | anything hs _ ih => rw [piecesOf.eq_3 _ (head?_ne_some_iff.mp hs), ih]
  | @segment s _ hs _ ih =>
    have hstar := head?_ne_some_iff.mp hs
    rw [piecesOf.eq_4 s (fun rest => hstar ('/' :: rest)) hstar, ih]
  | one _ ih => rw [piecesOf, ih]
  | @exactly c s _ hend hstar hmark _ ih =>
    rw [piecesOf.eq_6 c s (fun hc hs => hend (by rw [hc, hs])) (fun _ hc _ => hstar hc) (fun _ hc _ => hstar hc)
      hstar hmark, ih]

/-- All of the path, with `/` for every backslash, splits along the elements of the pattern. -/
def Describes (pattern path : List Char) : Prop := ∃ pieces, Cut pattern pieces ∧ Splits pieces (normalize path)

/-- A path without backslashes is matched as it stands. -/
theorem normalize_of_no_backslash {s : List Char} (h : '\\' ∉ s) : normalize s = s := by
  refine (List.map_congr_left fun c hc => if_neg ?_).trans (List.map_id s)
  intro same
  exact h (same ▸ hc)

theorem pieces_of_compile? [SizeLimit] {pattern : List Char} {g : Glob} (h : compile? pattern = some g) :
    g.pieces = piecesOf pattern := by
  simp only [compile?] at h
  split at h
  · exact congrArg pieces (Option.some.inj h).symm
  · cases h

theorem accepts_iff [SizeLimit] {pattern path : List Char} {g : Glob} (h : compile? pattern = some g) :
    g.accepts path = true ↔ Describes pattern path := by
  rw [accepts, matchesPieces_iff, pieces_of_compile? h]
  simp only [Describes, cut_iff, exists_eq_left]

/-- An accepted pattern and its text pattern match the paths that it describes, and a set matches those of its
    accepted patterns. -/
theorem accepts_exact [SizeLimit] :
    (∀ pattern, ∃! pieces, Cut pattern pieces) ∧
    (∀ pattern g, compile? pattern = some g → ∀ path,
      (g.accepts path = true ↔ Describes pattern path) ∧
      (((translation g.pieces).captures? (normalize path)).isSome = true ↔ Describes pattern path)) ∧
    ∀ patterns path, (GlobSet.ofPatterns patterns).accepts path = true ↔
      ∃ p ∈ patterns, (compile? p).isSome = true ∧ Describes p path := by
  refine ⟨fun pattern => ⟨_, cut_piecesOf pattern, fun _ => cut_iff.mp⟩, fun pattern g hg path => ⟨accepts_iff hg, ?_⟩,
    fun patterns path => ?_⟩
  · rw [isSome_captures?_translation]
    exact accepts_iff hg
  · rw [GlobSet.accepts_ofPatterns]
    refine exists_congr fun p => and_congr_right fun _ => ?_
    constructor
    · rintro ⟨g, hg, h⟩
      exact ⟨Option.isSome_of_eq_some hg, (accepts_iff hg).mp h⟩
    · rintro ⟨hp, h⟩
      obtain ⟨g, hg⟩ := Option.isSome_iff_exists.mp hp
      exact ⟨g, hg, (accepts_iff hg).mpr h⟩

/-- Three stars are `**` and `*`: a line feed is for the second, and a `/**` at the end admits none. -/
theorem accepts_exact_three_stars :
    Describes "a/***/**".toList "a\\b/c\\d\ne\\f".toList ∧ ¬ Describes "a/***/**".toList "a\\d\ne\\f\n".toList := by
  have hg : compile? "a/***/**".toList = some ⟨[.exactly 'a', .exactly '/', .anything, .segment, .below]⟩ := by decide
  have describes := fun path => (accepts_exact.2.1 _ _ hg path).1
  exact ⟨(describes _).mp (by decide), mt (describes _).mpr (by decide)⟩

end Glob

end MarkerScan
