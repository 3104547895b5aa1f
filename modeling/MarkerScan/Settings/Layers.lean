import MarkerScan.Number.Notation
import MarkerScan.Settings.Value
import MarkerScan.Text.Split
/-
  MarkerScan.Settings.Layers — one file of settings over another.

  A file is laid over the settings before it key by key. A table goes into the table that
  is there, field by field; any other value replaces what is there. A value that is no
  table gives way only when a field is set in it.

  A key at the top of a file may be a path: names with `.` between them and numbers in
  brackets. It then sets one place in the tables and lists it leads through; tables and
  lists that are missing on the way are made. A key that is no path is a name.
-/

namespace MarkerScan.Settings

namespace Value

/-- The fields of a table; anything else counts as an empty table. -/
def fields : Value → List (String × Value)
  | .table _ fields => fields
  | _ => []

/-- The items of a list; anything else counts as an empty list. -/
def items : Value → List Value
  | .list _ items => items
  | _ => []

def putField (key : String) (v : Value) : List (String × Value) → List (String × Value)
  | [] => [(key, v)]
  | (k, w) :: rest => if k = key then (key, v) :: rest else (k, w) :: putField key v rest

/-- Puts a field into a table; what is no table becomes one. -/
def put (t : Value) (key : String) (v : Value) : Value :=
  match t with
  | .table o fields => .table o (putField key v fields)
  | _ => .table none [(key, v)]

mutual
/-- Lays a value over the field `key` of a table. -/
def layIn (t : Value) (key : String) : Value → Value
  | .table _ incoming => t.put key (layFields ((t.fields.lookup key).getD emptyTable) incoming)
  | .scalar o s => t.put key (.scalar o s)
  | .list o items => t.put key (.list o items)
termination_by structural v => v

/-- Lays fields over those of a table. -/
def layFields (t : Value) : List (String × Value) → Value
  | [] => t
  | (k, v) :: rest => layFields (layIn t k v) rest
termination_by structural fields => fields
end

/-- The item at a place of a list, set; a list that is too short is filled up with nulls. -/
def setItem (items : List Value) (n : Nat) (f : Value → Value) : List Value :=
  let filled := items ++ List.replicate (n + 1 - items.length) Value.null
  filled.take n ++ f (filled.getD n Value.null) :: filled.drop (n + 1)

end Value

/-! ## Paths -/

/-- A step below the first name of a path. -/
inductive Step where
  | child (name : String)
  | item (n : Int)
  deriving DecidableEq, Repr

def isPathChar (c : Char) : Bool := c.isAlphanum || c == ' ' || c == '_' || c == '-'

def isPathSpace (c : Char) : Bool := c == ' ' || c == '\t' || c == '\n' || c == '\r'

/-- A number and blanks around it, up to the bracket. -/
def index? (s : List Char) : Option (Int × List Char) :=
  let s := s.dropWhile isPathSpace
  let negative := s.head? = some '-'
  let digits := (if negative then s.drop 1 else s).takeWhile Char.isDigit
  let rest := (if negative then s.drop 1 else s).dropWhile Char.isDigit
  if digits.isEmpty then none
  else match Number.readSigned? (if negative then '-' :: digits else digits), rest.dropWhile isPathSpace with
    | some n, ']' :: rest => some (n, rest)
    | _, _ => none

/-- The steps of a path; the first argument bounds their number. -/
def steps? : Nat → List Char → Option (List Step)
  | _, [] => some []
  | 0, _ => none
  | fuel + 1, '.' :: s =>
    let name := s.takeWhile isPathChar
    if name.isEmpty then none
    else (steps? fuel (s.dropWhile isPathChar)).map (.child (String.ofList name) :: ·)
  | fuel + 1, '[' :: s =>
    match index? s with
    | some (n, rest) => (steps? fuel rest).map (.item n :: ·)
    | none => none
  | _, _ => none

/-- The first name and the steps of a key. -/
def path (key : String) : String × List Step :=
  let s := key.toList
  let name := s.takeWhile isPathChar
  match steps? s.length (s.dropWhile isPathChar) with
  | some steps => if name.isEmpty then (key, []) else (String.ofList name, steps)
  | none => (key, [])

/-- The place in a list of some length that a number means; a negative one counts from the end. -/
def placeOf (n : Int) (length : Nat) : Nat := if 0 ≤ n then n.toNat else length - n.natAbs

/-- Sets the place that steps lead to from here. -/
def setBelow (v : Value) : List Step → Value → Value
  | [], _ => v
  | [.child name], here =>
    (match here with
      | .table o fields => Value.table o fields
      | _ => Value.emptyTable).layIn name v
  | .child name :: rest, here => here.put name (setBelow v rest ((here.fields.lookup name).getD Value.null))
  | .item n :: rest, here =>
    let items := here.items
    .list (match here with
      | .list o _ => o
      | _ => none) (Value.setItem items (placeOf n items.length) (setBelow v rest))

/-- Lays one entry of a file over the settings. -/
def layEntry (settings : Value) (entry : String × Value) : Value :=
  match path entry.1 with
  | (name, []) => settings.layIn name entry.2
  | (name, steps) => settings.put name (setBelow entry.2 steps ((settings.fields.lookup name).getD Value.null))

/-- Lays a file over the settings. A file that is no table has no entries. -/
def lay (settings file : Value) : Value := file.fields.foldl layEntry settings

end MarkerScan.Settings
