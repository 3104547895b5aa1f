import MarkerScan.Json.Reader
import MarkerScan.Yaml.Cursor
/-
  MarkerScan.Yaml.ScalarText — the texts of scalars: plain, quoted and in blocks.

  Between the words of a plain or quoted scalar, blanks within a line stay; a line break
  with the blanks around it becomes one space, and of several breaks all but the first
  stay. In a block, lines keep their text; a folded block joins lines that start with no
  blank as words are joined.
-/

namespace MarkerScan.Yaml

/-- Blanks and line breaks since the last word. -/
structure Gap where
  /-- Blanks before any break, latest first. -/
  blanks : List Char := []
  /-- A break has been passed, escaped or not. -/
  broken : Bool := false
  /-- The first break was not escaped. -/
  first : Bool := false
  /-- Breaks after the first. -/
  more : Nat := 0
  deriving DecidableEq, Repr

/-- What a gap is in the text, latest first. -/
def Gap.text (g : Gap) : List Char :=
  if g.broken then
    if g.first && g.more == 0 then [' '] else List.replicate g.more '\n'
  else g.blanks

def Gap.addBlank (g : Gap) (c : Char) : Gap := if g.broken then g else { g with blanks := c :: g.blanks }

def Gap.addBreak (g : Gap) : Gap :=
  if g.broken then { g with more := g.more + 1 } else { g with blanks := [], broken := true, first := true }

/-- Takes blanks and breaks. A tab behind a break may not stand before column `indent`. -/
def gapFrom (indent : Int) : Nat → Cursor → Gap → Option (Cursor × Gap)
  | 0, _, _ => none
  | fuel + 1, c, g =>
    let a := c.head
    if isBlank a then
      if g.broken && decide ((c.col : Int) < indent) && a == '\t' then none
      else gapFrom indent fuel c.skip (g.addBlank a)
    else if isBreak a then gapFrom indent fuel c.skipBreak g.addBreak
    else some (c, g)

/-! ## Plain scalars -/

/-- A plain scalar ends at a colon with a blank behind it, and in a flow collection at its marks. -/
def endsPlain (flow : Bool) (c : Cursor) : Bool :=
  (c.head == ':' && (isSpace (c.peek 1) || (flow && isFlowMark (c.peek 1)))) || (flow && isFlowMark c.head)

/-- A plain scalar from here on. `read` is its text so far, latest first; `fresh` tells that a gap was just passed. -/
def plainFrom (flow : Bool) (indent : Int) :
    Nat → Cursor → List Char → Gap → Bool → Option (Cursor × List Char × Gap)
  | 0, _, _, _, _ => none
  | fuel + 1, c, read, gap, fresh =>
    if fresh && (c.atDocumentEdge || c.head == '#') then some (c, read, gap)
    else if isBlank c.head || isBreak c.head then
      match gapFrom indent (fuel + 1) c gap with
      | none => none
      | some (c, gap) =>
        if !flow && decide ((c.col : Int) < indent) then some (c, read, gap)
        else plainFrom flow indent fuel c read gap true
    else if isEnd c.head || endsPlain flow c then some (c, read, gap)
    else plainFrom flow indent fuel c.skip (c.head :: (gap.text ++ read)) {} false

/-- The text of a plain scalar, and whether it ended behind a line break. -/
def plain (flow : Bool) (indent : Int) (c : Cursor) : Option (Cursor × List Char × Bool) :=
  (plainFrom flow indent (c.rest.length + 1) c [] {} true).map fun r => (r.1, r.2.1.reverse, r.2.2.broken)

/-! ## Quoted scalars -/

/-- What stands for a character behind a backslash. -/
def escape? : Char → Option Char
  | '0' => some '\x00'
  | 'a' => some '\x07'
  | 'b' => some '\x08'
  | 't' => some '\t'
  | '\t' => some '\t'
  | 'n' => some '\n'
  | 'v' => some '\x0b'
  | 'f' => some '\x0c'
  | 'r' => some '\r'
  | 'e' => some '\x1b'
  | ' ' => some ' '
  | '"' => some '"'
  | '\'' => some '\''
  | '\\' => some '\\'
  | 'N' => some '\u0085'
  | '_' => some '\u00a0'
  | 'L' => some '\u2028'
  | 'P' => some '\u2029'
  | _ => none

/-- How many hexadecimal digits follow an escape that has them. -/
def escapeDigits? : Char → Option Nat
  | 'x' => some 2
  | 'u' => some 4
  | 'U' => some 8
  | _ => none

/-- The character with a code in hexadecimal. -/
def charOfHex? (digits : List Char) : Option Char :=
  match digits.mapM Json.hexValue? with
  | none => none
  | some ds =>
    let n := ds.foldl (fun n d => n * 16 + d) 0
    if n.isValidChar then some (Char.ofNat n) else none

/-- One escape, at the backslash. -/
def escaped? (c : Cursor) : Option (Char × Cursor) :=
  match escape? (c.peek 1), escapeDigits? (c.peek 1) with
  | some a, _ => some (a, c.skip.skip)
  | none, some n =>
    let digits := (c.rest.drop 2).take n
    if digits.length < n then none else (charOfHex? digits).map fun a => (a, c.skipMany (n + 2))
  | none, none => none

/-- A quoted scalar behind its opening quote. `fresh` tells that a gap was just passed. -/
def quotedFrom (quote : Char) : Nat → Cursor → List Char → Bool → Option (Cursor × List Char)
  | 0, _, _, _ => none
  | fuel + 1, c, read, fresh =>
    if (fresh && c.atDocumentEdge) || isEnd c.head then none
    else if isBlank c.head || isBreak c.head then
      match gapFrom (-1) (fuel + 1) c {} with
      | none => none
      | some (c, gap) => quotedFrom quote fuel c (gap.text ++ read) true
    else if quote = '\'' ∧ c.head = '\'' ∧ c.peek 1 = '\'' then quotedFrom quote fuel c.skip.skip ('\'' :: read) false
    else if c.head = quote then some (c.skip, read)
    else if quote = '"' ∧ c.head = '\\' then
      if isBreak (c.peek 1) then
        match gapFrom (-1) (fuel + 1) c.skip.skipBreak { broken := true } with
        | none => none
        | some (c, gap) => quotedFrom quote fuel c (gap.text ++ read) true
      else match escaped? c with
        | none => none
        | some (a, c) => quotedFrom quote fuel c (a :: read) false
    else quotedFrom quote fuel c.skip (c.head :: read) false

/-- The text of a quoted scalar whose opening quote is at the cursor. -/
def quoted (c : Cursor) : Option (Cursor × List Char) :=
  (quotedFrom c.head (c.rest.length + 1) c.skip [] true).map fun r => (r.1, r.2.reverse)

/-! ## Block scalars -/

/-- What becomes of the line breaks at the end of a block. -/
inductive Chomping where
  | strip
  | clip
  | keep
  deriving DecidableEq, Repr

def chomping? (c : Char) : Option Chomping :=
  if c = '+' then some .keep else if c = '-' then some .strip else none

/-- The chomping and the indentation given behind `|` or `>`, in either order; 0 for none. -/
def blockHeader? (c : Cursor) : Option (Cursor × Chomping × Nat) :=
  let indentOf (c : Char) : Option Nat := if c.isDigit then some (c.toNat - '0'.toNat) else none
  match chomping? c.head, indentOf c.head with
  | some ch, _ => match indentOf (c.peek 1) with
    | some 0 => none
    | some n => some (c.skip.skip, ch, n)
    | none => some (c.skip, ch, 0)
  | none, some 0 => none
  | none, some n => match chomping? (c.peek 1) with
    | some ch => some (c.skip.skip, ch, n)
    | none => some (c.skip, .clip, n)
  | none, none => some (c, .clip, 0)

/-- Skips empty lines and indentation, up to column `indent` if it is not 0. Counts the lines; `widest` is the
widest indentation. -/
def emptyLines (indent : Nat) : Nat → Cursor → Nat → Nat → Option (Cursor × Nat × Nat)
  | 0, _, _, _ => none
  | fuel + 1, c, count, widest =>
    let spaces := (c.rest.takeWhile (· == ' ')).length
    let c := c.skipMany (if indent = 0 then spaces else min spaces (indent - c.col))
    let widest := max widest c.col
    if (indent == 0 || decide (c.col < indent)) && c.head == '\t' then none
    else if isBreak c.head then emptyLines indent fuel c.skipBreak (count + 1) widest
    else some (c, count, widest)

/-- A block scalar line by line. `pending` tells of a break behind the last line, `empty` counts the empty lines
behind it, `blank` says that the last line started with a blank. -/
def blockLines (literal : Bool) (indent : Nat) :
    Nat → Cursor → List Char → Bool → Nat → Bool → Option (Cursor × List Char × Bool × Nat)
  | 0, _, _, _, _, _ => none
  | fuel + 1, c, read, pending, empty, blank =>
    if c.col ≠ indent ∨ isEnd c.head then some (c, read, pending, empty)
    else
      let startsBlank := isBlank c.head
      let gap : List Char :=
        if !pending then []
        else if !literal && !blank && !startsBlank then (if empty = 0 then [' '] else [])
        else ['\n']
      let (text, c) := c.span (!isBreakOrEnd ·)
      let read := text.reverse ++ (List.replicate empty '\n' ++ (gap ++ read))
      if isEnd c.head then some (c, read, false, 0)
      else match emptyLines indent (fuel + 1) c.skipBreak 0 0 with
        | none => none
        | some (c, empty, _) => blockLines literal indent fuel c read true empty startsBlank

/-- The text of a block scalar whose `|` or `>` is at the cursor; `outer` is the indentation around it. -/
def block (literal : Bool) (outer : Int) (c : Cursor) : Option (Cursor × List Char) := do
  let (c, chomp, given) ← blockHeader? c.skip
  let c ← c.endLine?
  let fuel := c.rest.length + 1
  let indent := if given = 0 then 0 else if 0 ≤ outer then outer.toNat + given else given
  let (c, empty, widest) ← emptyLines indent fuel c 0 0
  let indent := if indent = 0 then max (max widest (outer + 1).toNat) 1 else indent
  let (c, read, pending, empty) ← blockLines literal indent fuel c [] false empty false
  let read := if pending && chomp != .strip then '\n' :: read else read
  let read := if chomp == .keep then List.replicate empty '\n' ++ read else read
  return (c, read.reverse)

end MarkerScan.Yaml
