import MarkerScan.Error
import MarkerScan.Item.Basic
import MarkerScan.Marker.Form
import MarkerScan.Marker.Metadata
import MarkerScan.Text.LetterCase
/-
  MarkerScan.Marker.Line — recognising the marker of a line.

  A recogniser holds the usable keywords. Of all forms, keywords and bodies the first
  that fits decides: forms first, then keywords in the order of their list.

  Keywords that make the patterns of the forms too large are refused. How large that is
  depends on how patterns are compiled, which is not modelled: `SizeLimit` says which
  keywords fit.
-/

namespace MarkerScan.Marker

open Text

/-- What a line says, apart from where it stands. -/
structure Found where
  /-- The keyword as it is written in the line, in capitals. -/
  kind : String
  content : String
  priority : Option Priority
  assignee : Option String
  tags : Option (List String)
  deriving DecidableEq, Repr

structure Recogniser where
  keywords : List (List Char)
  deriving DecidableEq, Repr

/-- Which keywords do not make the patterns too large. -/
class SizeLimit where
  fits : List (List Char) → Bool

/-- A limit to run with: a hundred thousand characters in all. -/
instance : SizeLimit where
  fits words := decide (words.foldl (fun n w => n + w.length) 0 ≤ 100000)

def Recogniser.build [SizeLimit] (keywords : List (List Char)) : Except ScanError Recogniser :=
  let words := usable keywords
  if SizeLimit.fits words then .ok ⟨words⟩
  else .error (.invalidPattern "Compiled regex exceeds size limit of 10485760 bytes.")

/-- The keyword as written and the body of a marker, if `s` starts with this keyword and leaves a body. -/
def Form.markerWith? (f : Form) (keyword s : List Char) : Option (List Char × List Char) :=
  match keywordAt? keyword s with
  | none => none
  | some (word, rest) => (f.body? rest).map fun body => (word, body)

/-- The keyword as written and the body of a marker of one form. -/
def Form.marker? (f : Form) (keywords : List (List Char)) (line : List Char) : Option (List Char × List Char) :=
  match f.opened? line with
  | none => none
  | some s => keywords.findSome? (f.markerWith? · s)

/-- The keyword as written and the body of the marker of a line. -/
def marker? (keywords : List (List Char)) (line : List Char) : Option (List Char × List Char) :=
  forms.findSome? (·.marker? keywords line)

/-- What a marker with this keyword and body says. -/
def describe (word body : List Char) : Found :=
  let kind := upper word
  let body := trim body
  { kind := String.ofList kind
    content := String.ofList ('[' :: kind ++ ']' :: ' ' :: cleaned body)
    priority := priority? body
    assignee := (assignee? body).map String.ofList
    tags := (tags? body).map (·.map String.ofList) }

def Recogniser.line? (r : Recogniser) (line : List Char) : Option Found :=
  (marker? r.keywords line).map fun m => describe m.1 m.2

def Found.item (f : Found) (path : String) (line : Nat) : Item :=
  ⟨path, line, f.content, f.priority, f.assignee, f.tags⟩

/-- The text without the byte-order mark at its front. -/
def dropByteOrderMark : List Char → List Char
  | '\uFEFF' :: s => s
  | s => s

/-- The items of a text, with its lines counted from 1. -/
def Recogniser.items (r : Recogniser) (path : String) (text : List Char) : List Item :=
  ((lines (dropByteOrderMark text)).zipIdx 1).filterMap fun (l, n) => (r.line? l).map (·.item path n)

end MarkerScan.Marker
