import MarkerScan.Text.Pattern
/-
  MarkerScan.Glob.Basic — glob patterns, and whether one matches a whole path.

  A pattern is read from the left, and at each point the first of these applies: a `/**`
  that ends the pattern, `**/`, `**`, `*`, `?`, any other character. Nothing else has a
  meaning of its own: brackets, braces and dots stand for themselves.

  Matching keeps a mark for every place of the path, before its first character, between
  two characters and after its last: the mark says that the elements so far match what
  stands before the place. Each element moves the marks on, so a path is read once for
  each element and no choice is ever taken back. In a path every backslash counts as `/`.

  As a text pattern, each element becomes a pattern of its own, they stand one behind the
  other, and the end of the text follows the last: what a glob pattern matches is a whole
  path.

  A pattern that is too large is refused, and a set leaves refused patterns out. How large
  that is depends on how patterns are compiled, which is not modelled: `SizeLimit` says
  which ones fit, and what is known of it is that one from which something was left out
  fits as well. The limit to run with goes by weight.
-/

namespace MarkerScan.Glob

/-! ## The elements of a pattern -/

inductive Piece where
  /-- `/**` at the end: the directory itself or anything below it. -/
  | below
  /-- `**/`: no directory or any number of them. -/
  | directories
  /-- `**`: any run of characters but line feeds. -/
  | anything
  /-- `*`: any run of characters but `/`. -/
  | segment
  /-- `?`: one character but `/`. -/
  | one
  | exactly (c : Char)
  deriving DecidableEq, Repr

/-- The elements of a pattern, in order. -/
def piecesOf : List Char → List Piece
  | ['/', '*', '*'] => [.below]
  | '*' :: '*' :: '/' :: s => .directories :: piecesOf s
  | '*' :: '*' :: s => .anything :: piecesOf s
  | '*' :: s => .segment :: piecesOf s
  | '?' :: s => .one :: piecesOf s
  | c :: s => .exactly c :: piecesOf s
  | [] => []

/-! ## Matching -/

def notSlash (c : Char) : Bool := c != '/'

def notNewline (c : Char) : Bool := c != '\n'

def isSlash (c : Char) : Bool := c == '/'

/-- Moves every mark over one character that `p` admits. -/
def past (p : Char → Bool) (path : List Char) (marks : List Bool) : List Bool :=
  false :: List.zipWith (fun c m => m && p c) path marks

/-- Moves the marks over any run of characters that `p` admits; `reached` tells the place before. -/
def alongFrom (p : Char → Bool) (reached : Bool) : List Char → List Bool → List Bool
  | c :: path, m :: marks =>
    let here := m || (reached && p c)
    here :: alongFrom p here path marks
  | _, _ => []

def along (p : Char → Bool) (path : List Char) : List Bool → List Bool
  | m :: marks => m :: alongFrom p m path marks
  | [] => []

def either (a b : List Bool) : List Bool := List.zipWith (· || ·) a b

/-- The marks after one more element. -/
def Piece.move (path : List Char) (marks : List Bool) : Piece → List Bool
  | .below => either marks (along notNewline path (past isSlash path marks))
  | .directories => either marks (past isSlash path (along notNewline path marks))
  | .anything => along notNewline path marks
  | .segment => along notSlash path marks
  | .one => past notSlash path marks
  | .exactly c => past (· == c) path marks

/-- The marks before any element: the front of the path alone. -/
def startMarks (path : List Char) : List Bool := true :: path.map fun _ => false

/-- Whether the elements match all of `path`. -/
def matchesPieces (pieces : List Piece) (path : List Char) : Bool :=
  (pieces.foldl (Piece.move path) (startMarks path)).getLastD false

/-- Every backslash becomes `/`. -/
def normalize (path : List Char) : List Char := path.map fun c => if c = '\\' then '/' else c

/-! ## As a text pattern -/

open Text

def Piece.translation : Piece → Pattern
  | .below => .optional (.seq (.one isSlash) (.many notNewline))
  | .directories => .optional (.seq (.many notNewline) (.one isSlash))
  | .anything => .many notNewline
  | .segment => .many notSlash
  | .one => .one notSlash
  | .exactly c => .one (· == c)

/-- The elements from the front of a text to its end. -/
def translation : List Piece → Pattern
  | [] => .finish
  | p :: pieces => .seq p.translation (translation pieces)

end MarkerScan.Glob

namespace MarkerScan

/-! ## Accepted patterns -/

/-- An accepted pattern. -/
structure Glob where
  pieces : List Glob.Piece
  deriving DecidableEq, Repr

namespace Glob

/-- Which patterns are not too large. -/
class SizeLimit where
  fits : List Piece → Bool
  /-- Elements may be left out. -/
  fits_sublist {pieces all : List Piece} : pieces.Sublist all → fits all = true → fits pieces = true
  /-- So may the `/` of a `**/`. -/
  fits_anything {before after : List Piece} :
    fits (before ++ .directories :: after) = true → fits (before ++ .anything :: after) = true

def compile? [SizeLimit] (pattern : List Char) : Option Glob :=
  let pieces := piecesOf pattern
  if SizeLimit.fits pieces then some ⟨pieces⟩ else none

def accepts (g : Glob) (path : List Char) : Bool := matchesPieces g.pieces (normalize path)

end Glob

/-- Accepted patterns, in order. -/
structure GlobSet where
  globs : List Glob
  deriving DecidableEq, Repr

namespace GlobSet

def ofPatterns [Glob.SizeLimit] (patterns : List (List Char)) : GlobSet := ⟨patterns.filterMap Glob.compile?⟩

/-- Whether any pattern of the set matches. -/
def accepts (s : GlobSet) (path : List Char) : Bool := s.globs.any (·.accepts path)

theorem accepts_ofPatterns [Glob.SizeLimit] {patterns : List (List Char)} {path : List Char} :
    (ofPatterns patterns).accepts path = true ↔
      ∃ p ∈ patterns, ∃ g, Glob.compile? p = some g ∧ g.accepts path = true := by
  simp only [accepts, ofPatterns, List.any_eq_true, List.mem_filterMap]
  constructor
  · rintro ⟨g, ⟨p, hp, hg⟩, h⟩
    exact ⟨p, hp, g, hg, h⟩
  · rintro ⟨p, hp, g, hg, h⟩
    exact ⟨g, ⟨p, hp, hg⟩, h⟩

end GlobSet

/-! ## A limit to run with -/

namespace Glob

/-- About what an element takes in a compiled pattern. -/
def Piece.weight : Piece → Nat
  | .exactly c => 32 * c.utf8Size
  | _ => 450

def weight : List Piece → Nat
  | [] => 0
  | p :: pieces => p.weight + weight pieces

theorem weight_append (pieces rest : List Piece) : weight (pieces ++ rest) = weight pieces + weight rest := by
  induction pieces with
  | nil => exact (Nat.zero_add _).symm
  | cons p pieces ih => rw [List.cons_append, weight, weight, ih, Nat.add_assoc]

theorem weight_le_of_sublist {pieces all : List Piece} (h : pieces.Sublist all) : weight pieces ≤ weight all := by
  induction h with
  | slnil => exact Nat.le_refl _
  | cons p _ ih => exact Nat.le_trans ih (Nat.le_add_left ..)
  | cons_cons p _ ih => exact Nat.add_le_add_left ih _

instance : SizeLimit where
  fits pieces := decide (weight pieces ≤ 10 * 1024 * 1024)
  fits_sublist h fits := decide_eq_true (Nat.le_trans (weight_le_of_sublist h) (of_decide_eq_true fits))
  fits_anything fits := by
    simpa only [weight_append, weight, Piece.weight] using fits

end Glob

end MarkerScan
