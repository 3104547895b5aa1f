import MarkerScan.Text.Pattern
/-
  MarkerScan.Text.Search — the matches of a pattern in a text.

  A pattern is looked for from the front of a text on, and the first place from which it
  can be read has the match. All matches of a text are looked for one after the other, each
  behind the one before. Only matches that read something count among them.
-/

namespace MarkerScan.Text

/-- A match: what stands in front of it, what stands behind it, and what its groups read. -/
structure Match where
  front : List Char
  behind : List Char
  groups : List (List Char)
  deriving DecidableEq, Repr

/-- What the first group read. -/
def Match.word? (m : Match) : Option (List Char) := m.groups.head?

/-- A character that is in no match, or a match with what its groups read. -/
inductive Part where
  | other (c : Char)
  | found (groups : List (List Char))
  deriving DecidableEq, Repr

namespace Part

/-- What the first group of a match read. -/
def word? : Part → Option (List Char)
  | other _ => none
  | found groups => groups.head?

/-- The text of a part, with another text for a match. -/
def writtenWith (instead : List Char) : Part → List Char
  | other c => [c]
  | found _ => instead

end Part

namespace Pattern

/-- The match that starts right here; `before` is what stands in front, nearest first. -/
def matchHere? (p : Pattern) (before rest : List Char) : Option Reading := (p.ways ⟨before, rest, []⟩).head?

def searchFrom? (p : Pattern) (before : List Char) : List Char → Option Match
  | [] => (p.matchHere? before []).map fun t => ⟨before.reverse, t.rest, t.groups⟩
  | c :: rest =>
    match p.matchHere? before (c :: rest) with
    | some t => some ⟨before.reverse, t.rest, t.groups⟩
    | none => p.searchFrom? (c :: before) rest

/-- The first match in a text. -/
def search? (p : Pattern) (text : List Char) : Option Match := p.searchFrom? [] text

/-- The parts of a text of which the match before reads `skip` characters. -/
def partsFrom (p : Pattern) (before : List Char) : Nat → List Char → List Part
  | _, [] => []
  | skip + 1, c :: rest => p.partsFrom (c :: before) skip rest
  | 0, c :: rest =>
    match p.matchHere? before (c :: rest) with
    | some t =>
      if t.rest.length ≤ rest.length then
        .found t.groups :: p.partsFrom (c :: before) (rest.length - t.rest.length) rest
      else .other c :: p.partsFrom (c :: before) 0 rest
    | none => .other c :: p.partsFrom (c :: before) 0 rest

/-- The parts of a text. -/
def parts (p : Pattern) (text : List Char) : List Part := p.partsFrom [] 0 text

/-- What the first groups of all matches read. -/
def words (p : Pattern) (text : List Char) : List (List Char) := (p.parts text).filterMap Part.word?

/-- The text with another one for each match. -/
def replaceAll (p : Pattern) (instead text : List Char) : List Char := (p.parts text).flatMap (Part.writtenWith instead)

/-- The text without the first match. -/
def removeFirst (p : Pattern) (text : List Char) : List Char :=
  match p.search? text with
  | some m => m.front ++ m.behind
  | none => text

/-- The text without a match at its front. -/
def removeFront (p : Pattern) (text : List Char) : List Char :=
  match p.matchHere? [] text with
  | some t => t.rest
  | none => text

end Pattern

end MarkerScan.Text
