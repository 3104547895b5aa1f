import MarkerScan.Item.Basic
import MarkerScan.Text.Character
/-
  MarkerScan.Marker.Metadata — priority, assignee and tags in the body of a marker.

  The priority is the first whole word that names a level. The assignee is the first word
  written right after an `@`, and the tags are the words right after a `#`.

  The cleaned text is the body without the priority word and what separates it from the
  next one (blanks, at most one `:` or `-`, blanks), then without every `@word`, then
  without every `#word`, each looked for in what the step before left; then with one
  space for every run of blanks, and without a colon at its front.
-/

namespace MarkerScan.Marker

open Text

/-- Puts a character in front of the runs of a text. -/
def addToRuns (c : Char) : List (List Char) → List (List Char)
  | (d :: run) :: rest => if isWord c = isWord d then (c :: d :: run) :: rest else [c] :: (d :: run) :: rest
  | rest => [c] :: rest

/-- The longest runs of word characters and of other characters, in turn. -/
def runs (s : List Char) : List (List Char) := s.foldr addToRuns []

def isPriorityWord (run : List Char) : Bool := (Priority.ofToken? run).isSome

/-- The level of the first priority word. -/
def priority? (s : List Char) : Option Priority := (runs s).findSome? Priority.ofToken?

/-- Without blanks, at most one `:` or `-`, and blanks at the front. -/
def dropSeparator (s : List Char) : List Char :=
  match trimStart s with
  | [] => []
  | c :: rest => if c = ':' ∨ c = '-' then trimStart rest else c :: rest

/-- Without the first priority word and its separator. -/
def removePriority (s : List Char) : List Char :=
  let pieces := runs s
  match pieces.dropWhile (!isPriorityWord ·) with
  | [] => s
  | _ :: after => (pieces.takeWhile (!isPriorityWord ·)).flatten ++ dropSeparator after.flatten

/-- Where collecting the words after a mark stands, from the end of the text on. -/
structure Collected where
  /-- The word at the front. -/
  word : List Char
  found : List (List Char)
  deriving Repr

def collect (mark c : Char) (r : Collected) : Collected :=
  if isWord c then ⟨c :: r.word, r.found⟩
  else if c = mark ∧ r.word ≠ [] then ⟨[], r.word :: r.found⟩
  else ⟨[], r.found⟩

/-- The words right after a mark, in order. -/
def markedWords (mark : Char) (s : List Char) : List (List Char) := (s.foldr (collect mark) ⟨[], []⟩).found

/-- A text without its marked words, from the end on. -/
structure Swept where
  startsWord : Bool
  /-- All of the text that stays. -/
  kept : List Char
  /-- What stays of the text after the word at its front. -/
  afterWord : List Char
  deriving Repr

def sweep (mark c : Char) (r : Swept) : Swept :=
  if isWord c then ⟨true, c :: r.kept, r.afterWord⟩
  else
    let kept := if c = mark ∧ r.startsWord then r.afterWord else c :: r.kept
    ⟨false, kept, kept⟩

/-- Without every marked word and its mark. -/
def removeMarked (mark : Char) (s : List Char) : List Char := (s.foldr (sweep mark) ⟨false, [], []⟩).kept

/-- Without a colon at the front and the blanks around it. -/
def dropColon (s : List Char) : List Char :=
  match trimStart s with
  | ':' :: rest => trimStart rest
  | _ => s

def assignee? (s : List Char) : Option (List Char) := (markedWords '@' s).head?

/-- The tags, unless there are none. -/
def tags? (s : List Char) : Option (List (List Char)) :=
  let words := markedWords '#' s
  if words.isEmpty then none else some words

/-- The text of a body without its metadata. -/
def cleaned (s : List Char) : List Char :=
  trim (dropColon (collapse (removeMarked '#' (removeMarked '@' (removePriority s)))))

end MarkerScan.Marker
