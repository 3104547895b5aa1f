import MarkerScan.Yaml.ScalarText
/-
  MarkerScan.Yaml.Token — a YAML text as tokens.

  Indentation becomes tokens: a deeper column opens a block sequence or mapping, and a
  lower one closes every block above it. A scalar turns out to be a key only when a colon
  follows it, so the place of each possible key is kept: one for the block level and one
  for each open flow collection. The colon then puts the key token, and the token that
  opens a block mapping, in front of the tokens of the key. A possible key is dropped at
  the end of its line and after 1024 characters.
-/

namespace MarkerScan.Yaml

/-- How the text of a scalar was given. -/
inductive ScalarStyle where
  | plain
  | quoted
  | block
  deriving DecidableEq, Repr

inductive Token where
  | streamEnd
  | directive
  | documentStart
  | documentEnd
  | blockSequenceStart
  | blockMappingStart
  | blockEnd
  | flowSequenceStart
  | flowSequenceEnd
  | flowMappingStart
  | flowMappingEnd
  | blockEntry
  | flowEntry
  | key
  | value
  | reference (name : List Char)
  | anchor (name : List Char)
  | tag (handle suffix : List Char)
  | scalar (style : ScalarStyle) (text : List Char)
  deriving DecidableEq, Repr

/-- A place where a key may have started. -/
structure KeyPlace where
  possible : Bool := false
  /-- A colon must follow. -/
  required : Bool := false
  /-- How many tokens stood before it. -/
  token : Nat := 0
  index : Nat := 0
  line : Nat := 0
  col : Nat := 0
  deriving DecidableEq, Repr

structure Scan where
  here : Cursor
  tokens : Array Token := #[]
  /-- A key may start here. -/
  keyAllowed : Bool := true
  /-- The latest quoted scalar ended here. -/
  quotedEnd : Nat := 0
  /-- The possible key of the innermost collection. -/
  key : KeyPlace := {}
  /-- Those of the collections around it. -/
  outerKeys : List KeyPlace := []
  indent : Int := -1
  outerIndents : List Int := []
  /-- Open flow collections. -/
  flow : Nat := 0
  deriving Repr

namespace Scan

def push (s : Scan) (t : Token) : Scan := { s with tokens := s.tokens.push t }

def insertAt (s : Scan) (n : Nat) (t : Token) : Scan :=
  { s with tokens := (s.tokens.extract 0 n).push t ++ s.tokens.extract n s.tokens.size }

/-- Skips blanks, breaks and comments up to the next token. -/
def toNext (flow : Bool) : Nat → Cursor → Bool → Cursor × Bool
  | 0, c, allowed => (c, allowed)
  | fuel + 1, c, allowed =>
    if c.head = ' ' then toNext flow fuel c.skip allowed
    else if c.head = '\t' ∧ (flow ∨ !allowed) then toNext flow fuel c.skip allowed
    else if isBreak c.head then toNext flow fuel c.skipBreak (allowed || !flow)
    else if c.head = '#' then toNext flow fuel (c.skipWhile (!isBreakOrEnd ·)) allowed
    else (c, allowed)

/-- Drops a possible key that is too far away; that is a fault if it was required. -/
def staleKey (c : Cursor) (k : KeyPlace) : Option KeyPlace :=
  if k.possible && (decide (k.line < c.line) || decide (k.index + 1024 < c.index)) then
    if k.required then none else some { k with possible := false }
  else some k

def dropStale (s : Scan) : Option Scan := do
  let key ← staleKey s.here s.key
  let outer ← s.outerKeys.mapM (staleKey s.here)
  return { s with key := key, outerKeys := outer }

/-- Gives up the possible key. -/
def dropKey (s : Scan) : Option Scan :=
  if s.key.possible && s.key.required then none else some { s with key := { s.key with possible := false } }

/-- A key may start with the next token. -/
def saveKey (s : Scan) : Option Scan :=
  if s.keyAllowed then do
    let s ← s.dropKey
    return { s with key := {
      possible := true
      required := decide (0 < s.flow) && s.indent == (s.here.col : Int)
      token := s.tokens.size
      index := s.here.index
      line := s.here.line
      col := s.here.col } }
  else some s

/-- Closes the blocks that are deeper than column `col`. -/
def closeBlocks (col : Int) : List Int → Scan → Scan
  | [], s => s
  | outer :: rest, s =>
    if s.flow = 0 ∧ col < s.indent then
      closeBlocks col rest { s.push .blockEnd with indent := outer, outerIndents := rest }
    else s

def unroll (s : Scan) (col : Int) : Scan := closeBlocks col s.outerIndents s

/-- Opens a block at a column deeper than the current one; `place` puts the token in front of others. -/
def roll (s : Scan) (col : Nat) (place : Option Nat) (t : Token) : Scan :=
  if s.flow = 0 ∧ s.indent < (col : Int) then
    let s := { s with outerIndents := s.indent :: s.outerIndents, indent := (col : Int) }
    match place with
    | some n => s.insertAt n t
    | none => s.push t
  else s

def advance (s : Scan) (n : Nat) : Scan := { s with here := s.here.skipMany n }

/-! ## Tokens by their first characters -/

def documentMark (s : Scan) (t : Token) : Option Scan := do
  let s ← (s.unroll (-1)).dropKey
  return ({ s with keyAllowed := false }.advance 3).push t

def openFlow (s : Scan) (t : Token) : Option Scan := do
  let s ← s.saveKey
  if s.flow < 255 then
    return ({ s with
      outerKeys := s.key :: s.outerKeys, key := {}, flow := s.flow + 1, keyAllowed := true }.advance 1).push t
  else none

def closeFlow (s : Scan) (t : Token) : Option Scan := do
  let s ← s.dropKey
  let s := match s.flow, s.outerKeys with
    | flow + 1, k :: rest => { s with flow := flow, key := k, outerKeys := rest }
    | _, _ => s
  return ({ s with keyAllowed := false }.advance 1).push t

def flowEntry (s : Scan) : Option Scan := do
  let s ← s.dropKey
  return ({ s with keyAllowed := true }.advance 1).push .flowEntry

def blockEntry (s : Scan) : Option Scan := do
  if s.flow ≠ 0 ∨ !s.keyAllowed then none
  else
    let s ← (s.roll s.here.col none .blockSequenceStart).dropKey
    return ({ s with keyAllowed := true }.advance 1).push .blockEntry

def complexKey (s : Scan) : Option Scan := do
  if s.flow = 0 ∧ !s.keyAllowed then none
  else
    let s ← (s.roll s.here.col none .blockMappingStart).dropKey
    return ({ s with keyAllowed := s.flow == 0 }.advance 1).push .key

def valueMark (s : Scan) : Option Scan :=
  if s.key.possible then
    let k := s.key
    let s := (s.insertAt k.token .key).roll k.col (some k.token) .blockMappingStart
    some (({ s with key := { k with possible := false }, keyAllowed := false }.advance 1).push .value)
  else if s.flow = 0 ∧ !s.keyAllowed then none
  else
    let s := s.roll s.here.col none .blockMappingStart
    some (({ s with keyAllowed := s.flow == 0 }.advance 1).push .value)

/-- An anchor, or with `alias` a reference to one. -/
def anchorMark (s : Scan) (isAlias : Bool) : Option Scan := do
  let s ← s.saveKey
  let (name, c) := s.here.skip.span isNameChar
  let next := c.head
  if name.isEmpty then none
  else if isSpace next || ['?', ':', ',', ']', '\x7d', '%', '@', '\x60'].contains next then
    return { s with here := c, keyAllowed := false }.push (if isAlias then .reference name else .anchor name)
  else none

/-! ## Tags and directives -/

def isUriChar (c : Char) : Bool :=
  isNameChar c || [';', '/', '?', ':', '@', '&', '=', '+', '$', ',', '.', '!', '~', '*', '\'', '(', ')', '[', ']'].contains c

/-- How many escaped octets a character has, by its first one. -/
def octetCount? (octet : Nat) : Option Nat :=
  if octet < 0x80 then some 1
  else if octet / 0x20 = 6 then some 2
  else if octet / 0x10 = 14 then some 3
  else if octet / 0x08 = 30 then some 4
  else none

/-- Escaped octets of one character, `left` of them still to come; their bits are put side by side. -/
def uriOctets : Nat → Nat → Cursor → Option (Char × Cursor)
  | 0, code, c => if code.isValidChar then some (Char.ofNat code, c) else none
  | left + 1, code, c =>
    if c.head = '%' then
      match Json.hexValue? (c.peek 1), Json.hexValue? (c.peek 2) with
      | some a, some b =>
        let octet := a * 16 + b
        if octet / 0x40 = 2 then uriOctets left (code * 256 + octet) (c.skipMany 3) else none
      | _, _ => none
    else none

def uriEscape (c : Cursor) : Option (Char × Cursor) :=
  match Json.hexValue? (c.peek 1), Json.hexValue? (c.peek 2) with
  | some a, some b =>
    let octet := a * 16 + b
    match octetCount? octet with
    | some n => uriOctets (n - 1) octet (c.skipMany 3)
    | none => none
  | _, _ => none

/-- The characters of a tag or of the prefix of a tag. -/
def uri : Nat → Cursor → List Char → Option (List Char × Cursor)
  | 0, _, _ => none
  | fuel + 1, c, read =>
    if c.head = '%' then
      match uriEscape c with
      | some (a, c) => uri fuel c (a :: read)
      | none => none
    else if isUriChar c.head then uri fuel c.skip (c.head :: read)
    else some (read.reverse, c)

/-- A tag or prefix that follows `front`, of which the leading `!` is left out. -/
def uriAfter (front : List Char) (c : Cursor) : Option (List Char × Cursor) :=
  match uri (c.rest.length + 1) c [] with
  | some (text, c) => if front.isEmpty && text.isEmpty then none else some (front.drop 1 ++ text, c)
  | none => none

/-- `!`, letters, and `!` if it follows. -/
def tagHandle (directive : Bool) (c : Cursor) : Option (List Char × Cursor) :=
  if c.head = '!' then
    let (name, c) := c.skip.span isNameChar
    if c.head = '!' then some ('!' :: name ++ ['!'], c.skip)
    else if directive && !name.isEmpty then none
    else some ('!' :: name, c)
  else none

/-- The handle and the suffix of a tag. -/
def tagParts (c : Cursor) : Option (List Char × List Char × Cursor) :=
  if c.peek 1 = '<' then
    match uriAfter [] c.skip.skip with
    | some (suffix, c) => if c.head = '>' then some ([], suffix, c.skip) else none
    | none => none
  else do
    let (handle, c) ← tagHandle false c
    if 2 ≤ handle.length ∧ handle.getLast? = some '!' then
      let (suffix, c) ← uriAfter [] c
      return (handle, suffix, c)
    else
      let (suffix, c) ← uriAfter handle c
      if suffix.isEmpty then return ([], ['!'], c) else return (['!'], suffix, c)

def tagMark (s : Scan) : Option Scan := do
  let s ← s.saveKey
  let (handle, suffix, c) ← tagParts s.here
  if isSpace c.head then return { s with here := c, keyAllowed := false }.push (.tag handle suffix) else none

/-- The number of a version. -/
def versionNumber (c : Cursor) : Option Cursor :=
  let (digits, c) := c.span Char.isDigit
  if digits.isEmpty ∨ 9 < digits.length then none else some c

def directiveValue (name : List Char) (c : Cursor) : Option Cursor :=
  if name = "YAML".toList then do
    let c ← versionNumber (c.skipWhile isBlank)
    if c.head = '.' then versionNumber c.skip else none
  else if name = "TAG".toList then do
    let (_, c) ← tagHandle true (c.skipWhile isBlank)
    let (_, c) ← uriAfter [] (c.skipWhile isBlank)
    if isSpace c.head then return c else none
  else some (c.skipWhile (!isBreakOrEnd ·))

def directiveLine (s : Scan) : Option Scan := do
  let s ← (s.unroll (-1)).dropKey
  let (name, c) := s.here.skip.span isNameChar
  if name.isEmpty ∨ !isSpace c.head then none
  else
    let c ← directiveValue name c
    let c ← c.endLine?
    return { s with here := c, keyAllowed := false }.push .directive

/-! ## Scalars -/

def plainScalar (s : Scan) : Option Scan := do
  let s ← s.saveKey
  let (c, text, broken) ← plain (0 < s.flow) (s.indent + 1) s.here
  return { s with here := c, keyAllowed := broken }.push (.scalar .plain text)

def quotedScalar (s : Scan) : Option Scan := do
  let s ← s.saveKey
  let (c, text) ← quoted s.here
  return { s with here := c, keyAllowed := false, quotedEnd := c.index }.push (.scalar .quoted text)

def blockScalar (s : Scan) (literal : Bool) : Option Scan := do
  let s ← s.saveKey
  let (c, text) ← block literal s.indent s.here
  return { s with here := c, keyAllowed := true }.push (.scalar .block text)

/-! ## All tokens -/

def finish (s : Scan) : Option Scan := do
  let s ← (s.unroll (-1)).dropKey
  return s.push .streamEnd

/-- The token at the cursor. -/
def token (s : Scan) : Option Scan :=
  let c := s.here
  let a := c.head
  let b := c.peek 1
  let inFlow := decide (0 < s.flow)
  if c.col = 0 ∧ a = '%' then s.directiveLine
  else if c.atDocumentMark '-' then s.documentMark .documentStart
  else if c.atDocumentMark '.' then s.documentMark .documentEnd
  else if a = '[' then s.openFlow .flowSequenceStart
  else if a = '\x7b' then s.openFlow .flowMappingStart
  else if a = ']' then s.closeFlow .flowSequenceEnd
  else if a = '\x7d' then s.closeFlow .flowMappingEnd
  else if a = ',' then s.flowEntry
  else if a = '-' ∧ isSpace b then s.blockEntry
  else if a = '?' ∧ isSpace b then s.complexKey
  else if a = ':' ∧ (isSpace b ∨ (inFlow ∧ (isFlowMark b ∨ c.index = s.quotedEnd))) then s.valueMark
  else if a = '*' then s.anchorMark true
  else if a = '&' then s.anchorMark false
  else if a = '!' then s.tagMark
  else if a = '|' ∧ !inFlow then s.blockScalar true
  else if a = '>' ∧ !inFlow then s.blockScalar false
  else if a = '\'' ∨ a = '"' then s.quotedScalar
  else if a = '%' ∨ a = '@' ∨ a = '\x60' then none
  else s.plainScalar

/-- All tokens from here on. -/
def all : Nat → Scan → Option (Array Token)
  | 0, _ => none
  | fuel + 1, s => do
    let (c, allowed) := toNext (0 < s.flow) (s.here.rest.length + 1) s.here s.keyAllowed
    let s ← { s with here := c, keyAllowed := allowed }.dropStale
    let s := s.unroll s.here.col
    if isEnd s.here.head then
      let s ← s.finish
      return s.tokens
    else all fuel (← s.token)

end Scan

/-- The tokens of a text, if it has any. -/
def tokens? (text : List Char) : Option (Array Token) :=
  let c := Cursor.ofText text
  Scan.all (c.rest.length + 1) { here := c }

end MarkerScan.Yaml
