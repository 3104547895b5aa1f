/-
  MarkerScan.Text.Split — cutting a text at a separator, and into lines.

  `split` keeps every piece, empty ones too: there is one piece more than there are
  separators, and joining the pieces with the separator gives the text back
  (`join_split`). `lines` cuts at line feeds: a carriage return right before a line feed
  goes with it, and what follows the last line feed is a line only if it is not empty.
-/

namespace MarkerScan.Text

/-- The pieces between the separators, in order. -/
def split (sep : Char) (s : List Char) : List (List Char) :=
  s.foldr (fun c pieces =>
    if c = sep then [] :: pieces
    else match pieces with
      | p :: ps => (c :: p) :: ps
      | [] => [[c]]) [[]]

/-- The pieces with the separator between them. -/
def join (sep : Char) (pieces : List (List Char)) : List Char := [sep].intercalate pieces

/-- Without the carriage return at its end, if it has one. -/
def dropReturn (line : List Char) : List Char :=
  if line.getLast? = some '\r' then line.dropLast else line

/-- The lines of a text. -/
def lines (s : List Char) : List (List Char) :=
  let pieces := split '\n' s
  let rest := pieces.getLastD []
  pieces.dropLast.map dropReturn ++ if rest.isEmpty then [] else [rest]

/-- Whether `part` stands somewhere in the text. -/
def contains (part : List Char) : List Char → Bool
  | [] => part.isEmpty
  | c :: s => part.isPrefixOf (c :: s) || contains part s

theorem split_nil (sep : Char) : split sep [] = [[]] := rfl

theorem split_cons_sep (sep : Char) (s : List Char) : split sep (sep :: s) = [] :: split sep s := by
  simp [split]

theorem split_ne_nil (sep : Char) (s : List Char) : split sep s ≠ [] := by
  cases s with
  | nil => simp [split]
  | cons c s =>
    simp only [split, List.foldr_cons]
    split
    · simp
    · split <;> simp

theorem split_cons_of_ne {sep c : Char} (h : c ≠ sep) (s : List Char) :
    ∃ p ps, split sep s = p :: ps ∧ split sep (c :: s) = (c :: p) :: ps := by
  cases hs : split sep s with
  | nil => exact absurd hs (split_ne_nil sep s)
  | cons p ps =>
    refine ⟨p, ps, rfl, ?_⟩
    have : split sep (c :: s) = match split sep s with
        | p :: ps => (c :: p) :: ps
        | [] => [[c]] := by simp [split, h]
    rw [this, hs]

theorem join_split (sep : Char) (s : List Char) : join sep (split sep s) = s := by
  induction s with
  | nil => rfl
  | cons c s ih =>
    by_cases h : c = sep
    · subst h
      rw [split_cons_sep]
      cases hs : split c s with
      | nil => exact absurd hs (split_ne_nil c s)
      | cons p ps => rw [hs] at ih; simp_all [join, List.intercalate]
    · obtain ⟨p, ps, hs, hc⟩ := split_cons_of_ne h s
      rw [hs] at ih
      rw [hc]
      cases ps <;> simp_all [join, List.intercalate]

end MarkerScan.Text
