import MarkerScan.Text.Character
import MarkerScan.Text.Split
/-
  MarkerScan.Marker.Form — keywords, and the forms of comment that they make markers.

  A keyword stands at the front of a text when the text starts with the same letters,
  whatever their case. A keyword that ends in a word character must end a word as well:
  of the last character matched and the next character, exactly one is a word character.

  A comment opens with `//`, `/*`, `#` or `<!--`. The second and the last are closed by
  `*/` and `-->`, or by the end of the text. Behind the keyword come blanks, at most one
  colon and blanks again, and then the body, which is never empty and holds no line feed.
  As much as possible is skipped before the body; when nothing would be left for it, it
  starts earlier, on the last blank or on the colon.

  A closed body ends right before the first closer that leaves it at least one character.
  If a line feed comes first there is no body at that place.
-/

namespace MarkerScan.Marker

open Text

/-! ## Keywords -/

/-- The front of `s` that has the letters of the keyword, and what follows it. -/
def sameLetters? : List Char → List Char → Option (List Char × List Char)
  | [], s => some ([], s)
  | _ :: _, [] => none
  | k :: ks, c :: s => if sameLetter k c then (sameLetters? ks s).map fun r => (c :: r.1, r.2) else none

/-- Whether the keyword may end between `matched` and `rest`. -/
def endsWord (keyword matched rest : List Char) : Bool :=
  !inWord keyword.getLast? || wordEdge matched.getLast? rest.head?

/-- The keyword at the front of `s`, as it is written there, and what follows it. -/
def keywordAt? (keyword s : List Char) : Option (List Char × List Char) :=
  match sameLetters? keyword s with
  | some (matched, rest) => if endsWord keyword matched rest then some (matched, rest) else none
  | none => none

/-- The words a list of entries stands for: entries are cut at commas and trimmed, and blank ones are no words. -/
def activeWords (entries : List (List Char)) : List (List Char) :=
  (entries.flatMap fun e => (split ',' e).map trim).filter (!·.isEmpty)

/-- The keywords that can match: trimmed, without the blank ones. -/
def usable (keywords : List (List Char)) : List (List Char) := (keywords.map trim).filter (!·.isEmpty)

/-- The matched front and the rest make up the text, letter for letter. -/
theorem sameLetters?_append {ks s m r : List Char} (h : sameLetters? ks s = some (m, r)) :
    s = m ++ r ∧ m.length = ks.length := by
  induction ks generalizing s m with
  | nil => simp_all [sameLetters?]
  | cons k ks ih =>
    cases s with
    | nil => simp [sameLetters?] at h
    | cons c s =>
      simp only [sameLetters?] at h
      split at h
      · simp only [Option.map_eq_some_iff, Prod.mk.injEq] at h
        obtain ⟨⟨m', r'⟩, hm, rfl, rfl⟩ := h
        simp [ih hm]
      · simp at h

/-! ## The four forms of comment -/

structure Form where
  opener : List Char
  closer : Option (List Char)
  deriving DecidableEq, Repr

/-- The forms, in the order in which they are tried. -/
def forms : List Form :=
  [⟨['/', '/'], none⟩, ⟨['/', '*'], some ['*', '/']⟩, ⟨['#'], none⟩, ⟨['<', '!', '-', '-'], some ['-', '-', '>']⟩]

/-- What follows the opener and the blanks around it. -/
def Form.opened? (f : Form) (line : List Char) : Option (List Char) :=
  (f.opener.isPrefixOf? (trimStart line)).map trimStart

/-- What stands before the closer or the end of the text; `read` is what was read before, latest first. -/
def untilCloser (closer : List Char) (read : List Char) : List Char → Option (List Char)
  | [] => some read.reverse
  | c :: s =>
    if closer.isPrefixOf (c :: s) then some read.reverse
    else if c = '\n' then none
    else untilCloser closer (c :: read) s

/-- The body that starts with the first character of `s`. -/
def Form.bodyFrom? (f : Form) (s : List Char) : Option (List Char) :=
  match s with
  | [] => none
  | c :: rest =>
    if c = '\n' then none
    else match f.closer with
      | none => some (c :: rest.takeWhile (· != '\n'))
      | some closer => untilCloser closer [c] rest

/-- How many blanks and colons may be skipped between the keyword and the body. -/
def skippable (s : List Char) : Nat :=
  let blanks := (s.takeWhile isBlank).length
  match s.dropWhile isBlank with
  | ':' :: rest => blanks + 1 + (rest.takeWhile isBlank).length
  | _ => blanks

/-- The body that starts at most `n` characters into `s`, the furthest start that has one. -/
def Form.bodyWithin? (f : Form) (s : List Char) : Nat → Option (List Char)
  | 0 => f.bodyFrom? s
  | n + 1 => match f.bodyFrom? (s.drop (n + 1)) with
    | some body => some body
    | none => f.bodyWithin? s n

def Form.body? (f : Form) (s : List Char) : Option (List Char) := f.bodyWithin? s (skippable s)

end MarkerScan.Marker
