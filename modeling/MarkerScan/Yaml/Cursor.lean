/-
  MarkerScan.Yaml.Cursor — a place in a YAML text.

  A cursor knows what is left of the text and counts characters, lines and columns. Past
  the end of the text it shows NUL, and a NUL in the text is its end. Only a line feed
  starts a new line for the count; a carriage return is a break that stays on its line.
-/

namespace MarkerScan.Yaml

structure Cursor where
  rest : List Char
  index : Nat := 0
  line : Nat := 0
  col : Nat := 0
  deriving DecidableEq, Repr

namespace Cursor

def ofText (s : List Char) : Cursor := { rest := s.takeWhile (· != '\x00') }

/-- The character `n` places ahead. -/
def peek (c : Cursor) (n : Nat) : Char := c.rest.getD n '\x00'

def head (c : Cursor) : Char := c.peek 0

def skip (c : Cursor) : Cursor :=
  match c.rest with
  | [] => c
  | a :: rest =>
    if a = '\n' then ⟨rest, c.index + 1, c.line + 1, 0⟩ else ⟨rest, c.index + 1, c.line, c.col + 1⟩

def skipMany (c : Cursor) : Nat → Cursor
  | 0 => c
  | n + 1 => c.skip.skipMany n

/-- Skips a line break, if there is one: a carriage return with a line feed is one break. -/
def skipBreak (c : Cursor) : Cursor :=
  if c.head = '\r' ∧ c.peek 1 = '\n' then c.skip.skip
  else if c.head = '\n' ∨ c.head = '\r' then c.skip
  else c

/-- Skips characters while `p` holds, and gives them. -/
def span (c : Cursor) (p : Char → Bool) : List Char × Cursor :=
  let run := c.rest.takeWhile p
  (run, c.skipMany run.length)

def skipWhile (c : Cursor) (p : Char → Bool) : Cursor := (c.span p).2

end Cursor

def isEnd (c : Char) : Bool := c == '\x00'

def isBreak (c : Char) : Bool := c == '\n' || c == '\r'

def isBlank (c : Char) : Bool := c == ' ' || c == '\t'

def isBreakOrEnd (c : Char) : Bool := isBreak c || isEnd c

def isSpace (c : Char) : Bool := isBlank c || isBreakOrEnd c

/-- The characters of anchors and of the handles of tags. -/
def isNameChar (c : Char) : Bool := c.isAlphanum || c == '_' || c == '-'

/-- The characters that structure flow collections. -/
def isFlowMark (c : Char) : Bool := c == ',' || c == '[' || c == ']' || c == '\x7b' || c == '\x7d'

/-- A line that starts with `---` or `...` as a word of its own. -/
def Cursor.atDocumentMark (c : Cursor) (mark : Char) : Bool :=
  c.col == 0 && c.peek 0 == mark && c.peek 1 == mark && c.peek 2 == mark && isSpace (c.peek 3)

def Cursor.atDocumentEdge (c : Cursor) : Bool := c.atDocumentMark '-' || c.atDocumentMark '.'

/-- Skips the rest of a line that may hold blanks and a comment; there must be nothing else. -/
def Cursor.endLine? (c : Cursor) : Option Cursor :=
  let c := c.skipWhile isBlank
  let c := if c.head = '#' then c.skipWhile (!isBreakOrEnd ·) else c
  if isBreakOrEnd c.head then some c.skipBreak else none

end MarkerScan.Yaml
