import MarkerScan.Json.Decode
import MarkerScan.Text.Character
/-
  MarkerScan.Item.Basic — one marker found in a file, and lists of them.

  An item says where the marker stands, what it says and which metadata it carried. As
  JSON it is an object with the fields in the order of the structure; what is not set is
  left out, and an empty list of tags stays a list.

  `sorted` orders items by path, byte for byte, and then by line, and keeps the order of
  equal items. `byFile` makes one group for each path, in the order in which the paths
  first appear, and keeps the order of the items in each.
-/

namespace MarkerScan

/-! ## Priorities -/

inductive Priority where
  | high
  | medium
  | low
  deriving DecidableEq, Repr

namespace Priority

def name : Priority → String
  | .high => "high"
  | .medium => "medium"
  | .low => "low"

/-- The name in capitals, as listings show it. -/
def label : Priority → String
  | .high => "HIGH"
  | .medium => "MEDIUM"
  | .low => "LOW"

/-- The words for the levels, in capitals: the name or its first letter. -/
def tokens : List (List Char × Priority) :=
  [("HIGH".toList, .high), ("H".toList, .high), ("MEDIUM".toList, .medium), ("M".toList, .medium),
   ("LOW".toList, .low), ("L".toList, .low)]

/-- The level a word names, in any ASCII case. -/
def ofToken? (word : List Char) : Option Priority := tokens.lookup (Text.asciiUpper word)

end Priority

/-! ## Items -/

structure Item where
  /-- The path below the root of the scan, with `/` between its names. -/
  filePath : String
  /-- Counted from 1. -/
  line : Nat
  /-- The kind in brackets, a space, and the text without its metadata. -/
  content : String
  priority : Option Priority
  assignee : Option String
  /-- In order of appearance. -/
  tags : Option (List String)
  deriving DecidableEq, Repr

namespace Item

def priorityDecoder : Json.Decoder Priority :=
  Json.Decode.choice [("high", .high), ("medium", .medium), ("low", .low)]

open Json Json.Decode in
def decode : Json.Decoder Item := fun j => do
  let fields ← record "TodoItem"
    [required "filePath" string, required "lineNumber" size, required "content" string,
     defaulted "priority" (optional priorityDecoder), defaulted "assignee" (optional string),
     defaulted "tags" (optional (list string))] j
  return {
    filePath := ← fields.get "filePath" string
    line := ← fields.get "lineNumber" size
    content := ← fields.get "content" string
    priority := ← fields.getD "priority" (optional priorityDecoder) none
    assignee := ← fields.getD "assignee" (optional string) none
    tags := ← fields.getD "tags" (optional (list string)) none }

def toJson (i : Item) : Json :=
  .object ([("filePath", .string i.filePath), ("lineNumber", Json.ofNat i.line), ("content", .string i.content)]
    ++ (i.priority.map fun p => ("priority", Json.string p.name)).toList
    ++ (i.assignee.map fun a => ("assignee", Json.string a)).toList
    ++ (i.tags.map fun t => ("tags", Json.array (t.map Json.string))).toList)

/-- What a listing shows after the text: ` [HIGH] @name #tag`, each part only if it is set. -/
def suffix (i : Item) : String :=
  (match i.priority with
    | some p => " [" ++ p.label ++ "]"
    | none => "")
  ++ (match i.assignee with
    | some a => " @" ++ a
    | none => "")
  ++ (match i.tags with
    | some tags => " " ++ " ".intercalate (tags.map ("#" ++ ·))
    | none => "")

/-! ## Order and groups -/

/-- `a` may stand before `b`: its path is smaller, or it is the same and its line is not larger. -/
def before (a b : Item) : Bool :=
  if a.filePath < b.filePath then true
  else if a.filePath = b.filePath then decide (a.line ≤ b.line)
  else false

def sorted (items : List Item) : List Item := items.mergeSort before

/-- Puts an item at the end of the group of its path, or in a new group after the others. -/
def addToGroups (item : Item) : List (String × List Item) → List (String × List Item)
  | [] => [(item.filePath, [item])]
  | (path, group) :: rest =>
    if path = item.filePath then (path, group ++ [item]) :: rest
    else (path, group) :: addToGroups item rest

def byFile (items : List Item) : List (String × List Item) :=
  items.foldl (fun groups item => addToGroups item groups) []

end Item

end MarkerScan
