import MarkerScan.Text.Character
/-
  MarkerScan.Text.Pattern — patterns, and the order of preference among their matches.

  A pattern reads a text from a place on. Where it can read it in more than one way, the
  ways have an order: of two alternatives the first comes before the other, `many` reads
  as much as it can before it reads less, and `few` as little as it can before it reads
  more. A sequence goes back to the last choice it made when what follows cannot go on.
  The match of a pattern is the first of all its ways.
-/

namespace MarkerScan.Text

inductive Pattern where
  | empty
  /-- One character of a class. -/
  | one (fits : Char → Bool)
  /-- Characters of a class, as many as possible. -/
  | many (fits : Char → Bool)
  /-- Characters of a class, as few as possible. -/
  | few (fits : Char → Bool)
  /-- A place where a word starts or ends. -/
  | edge
  /-- The end of the text. -/
  | finish
  | seq (first next : Pattern)
  | alt (first other : Pattern)
  /-- What is read is remembered. -/
  | group (p : Pattern)

/-- How far a text has been read. -/
structure Reading where
  /-- What was read, latest first. -/
  before : List Char
  rest : List Char
  /-- What the groups read, in order. -/
  groups : List (List Char)
  deriving Repr

/-- Remembers what was read since `start`. -/
def Reading.remember (start t : Reading) : Reading :=
  { t with groups := t.groups ++ [start.rest.take (start.rest.length - t.rest.length)] }

namespace Pattern

/-- Ways to read characters of a class, the longest first. -/
def longest (fits : Char → Bool) (before : List Char) (groups : List (List Char)) : List Char → List Reading
  | [] => [⟨before, [], groups⟩]
  | c :: rest =>
    (if fits c then longest fits (c :: before) groups rest else []) ++ [⟨before, c :: rest, groups⟩]

/-- Ways to read characters of a class, the shortest first. -/
def shortest (fits : Char → Bool) (before : List Char) (groups : List (List Char)) : List Char → List Reading
  | [] => [⟨before, [], groups⟩]
  | c :: rest =>
    ⟨before, c :: rest, groups⟩ :: if fits c then shortest fits (c :: before) groups rest else []

/-- The ways to read on, the preferred one first. -/
def ways : Pattern → Reading → List Reading
  | empty, s => [s]
  | one fits, s => match s.rest with
    | c :: rest => if fits c then [⟨c :: s.before, rest, s.groups⟩] else []
    | [] => []
  | many fits, s => longest fits s.before s.groups s.rest
  | few fits, s => shortest fits s.before s.groups s.rest
  | edge, s => if wordEdge s.before.head? s.rest.head? then [s] else []
  | finish, s => if s.rest.isEmpty then [s] else []
  | seq p q, s => (p.ways s).flatMap q.ways
  | alt p q, s => p.ways s ++ q.ways s
  | group p, s => (p.ways s).map s.remember

section
variable (fits : Char → Bool) (b : List Char) (c : Char) (r : List Char) (g : List (List Char)) (p : Pattern)
  (s : Reading)

@[simp] theorem longest_nil : longest fits b g [] = [⟨b, [], g⟩] := rfl

@[simp] theorem longest_cons : longest fits b g (c :: r) =
    (if fits c then longest fits (c :: b) g r else []) ++ [⟨b, c :: r, g⟩] := rfl

@[simp] theorem shortest_nil : shortest fits b g [] = [⟨b, [], g⟩] := rfl

@[simp] theorem shortest_cons : shortest fits b g (c :: r) =
    ⟨b, c :: r, g⟩ :: if fits c then shortest fits (c :: b) g r else [] := rfl

@[simp] theorem ways_empty : empty.ways s = [s] := rfl

@[simp] theorem ways_one_cons : (one fits).ways ⟨b, c :: r, g⟩ = if fits c then [⟨c :: b, r, g⟩] else [] := rfl

@[simp] theorem ways_many : (many fits).ways s = longest fits s.before s.groups s.rest := rfl

@[simp] theorem ways_few : (few fits).ways s = shortest fits s.before s.groups s.rest := rfl

@[simp] theorem ways_edge : edge.ways s = if wordEdge s.before.head? s.rest.head? then [s] else [] := rfl

@[simp] theorem ways_finish : finish.ways s = if s.rest.isEmpty then [s] else [] := rfl

@[simp] theorem ways_group : (group p).ways s = (p.ways s).map s.remember := rfl

end

/-- What the groups read when the pattern matches from the start of the text. -/
def captures? (p : Pattern) (text : List Char) : Option (List (List Char)) :=
  (p.ways ⟨[], text, []⟩).head?.map (·.groups)

/-- These letters, whatever their case. -/
def literal : List Char → Pattern
  | [] => empty
  | c :: s => seq (one (sameLetter c)) (literal s)

def optional (p : Pattern) : Pattern := alt p empty

/-- The first of these that fits. -/
def anyOf (ps : List Pattern) : Pattern := ps.foldr alt (one fun _ => false)

end Pattern

end MarkerScan.Text
