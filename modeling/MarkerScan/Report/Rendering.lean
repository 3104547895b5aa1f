import MarkerScan.Error
import MarkerScan.Item.Basic
import MarkerScan.Json.Printer
import MarkerScan.Text.Character
import MarkerScan.Tree.FileSystem
/-
  MarkerScan.Report.Rendering — a list of items as text, and written to a file.

  A listing has a title over a rule, then for each file its path, underlined, and its
  items, and the number of items at the end. In a file the title carries the time. On a
  terminal, pieces may be painted: a painted piece starts with the sequence of its
  colour and ends with the reset sequence, and where the piece holds a reset of its own
  the colour starts again.

  As comma-separated rows, the first row names the six fields, and every item is one row
  after it. A field with a comma, a quote, a carriage return or a line feed stands in
  quotes, with its quotes doubled; rows end in a line feed. Tags are joined by `;`.

  A moment is a count of seconds from the start of 1970. Days are counted in years that
  begin in March, so that the day that leap years add comes last: 400 years have 146097
  days, and five months from March, as from August, have 153.
-/

namespace MarkerScan.Report

/-! ## Formats -/

inductive Format where
  | txt
  | json
  | csv
  deriving DecidableEq, Repr

namespace Format

/-- The name of the format, and the extension of its files. -/
def extension : Format → String
  | .txt => "txt"
  | .json => "json"
  | .csv => "csv"

def defaultFileName (f : Format) : String := "todos." ++ f.extension

/-- The format a word names, in any ASCII case. -/
def ofName (word : List Char) : Except ScanError Format :=
  let w := String.ofList (Text.asciiLower word)
  if w = "txt" ∨ w = "text" then .ok .txt
  else if w = "json" then .ok .json
  else if w = "csv" then .ok .csv
  else .error (.settings ("unknown export format '" ++ w ++ "' (expected txt, json or csv)"))

end Format

/-! ## Listings -/

/-- So many copies of a character. -/
def repeated (n : Nat) (c : Char) : String := String.ofList (List.replicate n c)

def rule : String := repeated 50 '='

/-- As long as the path and four more. -/
def underline (path : String) : String := repeated (path.length + 4) '-'

def foundLine (items : List Item) : String := "Found " ++ toString items.length ++ " TODOs.\n"

/-! ### In a file -/

def itemLine (i : Item) : String := "  " ++ toString i.line ++ ": " ++ i.content ++ i.suffix ++ "\n"

def groupText (group : String × List Item) : String :=
  group.1 ++ "\n" ++ underline group.1 ++ "\n" ++ String.join (group.2.map itemLine) ++ "\n"

def txt (time : String) (items : List Item) : String :=
  "TODO list - " ++ time ++ "\n" ++ rule ++ "\n\n"
    ++ if items.isEmpty then "No TODOs found.\n"
      else String.join ((Item.byFile items).map groupText) ++ foundLine items

/-! ### On a terminal -/

inductive Paint where
  | bold
  | red
  | green
  | yellow
  | blue
  | cyan
  deriving DecidableEq, Repr

def Paint.code : Paint → String
  | .bold => "1"
  | .red => "31"
  | .green => "32"
  | .yellow => "33"
  | .blue => "34"
  | .cyan => "36"

def Paint.start (p : Paint) : List Char := '\x1b' :: '[' :: (p.code.toList ++ ['m'])

def reset : List Char := ['\x1b', '[', '0', 'm']

/-- Puts `start` after every reset of a text. -/
def restart (start : List Char) : List Char → List Char
  | '\x1b' :: '[' :: '0' :: 'm' :: s => reset ++ start ++ restart start s
  | c :: s => c :: restart start s
  | [] => []

/-- A painted piece, or the plain one without `color`. -/
def painted (color : Bool) (p : Paint) (s : String) : String :=
  if color then String.ofList (p.start ++ restart p.start s.toList ++ reset) else s

def terminalLine (color : Bool) (i : Item) : String :=
  "  " ++ painted color .green (toString i.line) ++ ": " ++ i.content ++ painted color .cyan i.suffix ++ "\n"

def terminalGroup (color : Bool) (group : String × List Item) : String :=
  "\n" ++ painted color .blue group.1 ++ "\n" ++ underline group.1 ++ "\n"
    ++ String.join (group.2.map (terminalLine color))

def terminal (color : Bool) (items : List Item) : String :=
  if items.isEmpty then painted color .yellow "No TODOs found." ++ "\n"
  else painted color .bold "TODO list" ++ "\n" ++ rule ++ "\n"
    ++ String.join ((Item.byFile items).map (terminalGroup color)) ++ "\n" ++ foundLine items

/-! ## Comma-separated rows -/

namespace Csv

def needsQuotes (s : List Char) : Bool := s.any fun c => c == ',' || c == '"' || c == '\r' || c == '\n'

/-- With every quote written twice. -/
def doubled (s : List Char) : List Char := s.flatMap fun c => if c = '"' then ['"', '"'] else [c]

def field (s : List Char) : List Char := if needsQuotes s then '"' :: (doubled s ++ ['"']) else s

/-- The fields with commas between them. -/
def row (fields : List (List Char)) : List Char := [','].intercalate (fields.map field) ++ ['\n']

def header : List (List Char) :=
  ["file_path", "line_number", "content", "priority", "assignee", "tags"].map String.toList

def fields (i : Item) : List (List Char) :=
  [i.filePath.toList, Nat.toDigits 10 i.line, i.content.toList,
   (i.priority.map fun p => p.name.toList).getD [],
   (i.assignee.map String.toList).getD [],
   (i.tags.map fun tags => [';'].intercalate (tags.map String.toList)).getD []]

def text (items : List Item) : List Char := row header ++ items.flatMap fun i => row (fields i)

end Csv

/-! ## The text of a moment, to the second -/

/-- A year, a month and a day. -/
structure Date where
  year : Nat
  month : Nat
  day : Nat
  deriving DecidableEq, Repr

/-- The date of a day, counted from the start of 1970. -/
def Date.ofDay (day : Nat) : Date :=
  let sinceMarch0 := day + 719468
  let inCycle := sinceMarch0 % 146097
  let yearInCycle := (inCycle - inCycle / 1460 + inCycle / 36524 - inCycle / 146096) / 365
  let inYear := inCycle - (365 * yearInCycle + yearInCycle / 4 - yearInCycle / 100)
  let monthFromMarch := (5 * inYear + 2) / 153
  { year := sinceMarch0 / 146097 * 400 + yearInCycle + if monthFromMarch < 10 then 0 else 1
    month := if monthFromMarch < 10 then monthFromMarch + 3 else monthFromMarch - 9
    day := inYear - (153 * monthFromMarch + 2) / 5 + 1 }

example : Date.ofDay 0 = ⟨1970, 1, 1⟩ := by decide
example : Date.ofDay 11016 = ⟨2000, 2, 29⟩ := by decide
example : Date.ofDay 19722 = ⟨2023, 12, 31⟩ := by decide

/-- A number in at least so many digits. -/
def padded (width n : Nat) : String :=
  let digits := Nat.toDigits 10 n
  String.ofList (List.replicate (width - digits.length) '0' ++ digits)

def timestamp (seconds : Nat) : String :=
  let date := Date.ofDay (seconds / 86400)
  padded 4 date.year ++ "-" ++ padded 2 date.month ++ "-" ++ padded 2 date.day ++ "T"
    ++ padded 2 (seconds / 3600 % 24) ++ ":" ++ padded 2 (seconds / 60 % 60) ++ ":" ++ padded 2 (seconds % 60) ++ "Z"

/-! ## Writing -/

/-- The time, the number of items and the items, indented. -/
def jsonText (time : String) (items : List Item) : String :=
  Json.pretty (.object [("timestamp", .string time), ("totalCount", Json.ofNat items.length),
    ("todos", .array (items.map Item.toJson))])

def render (time : String) (items : List Item) : Format → String
  | .txt => txt time items
  | .json => jsonText time items
  | .csv => String.ofList (Csv.text items)

/-- Writes the items to the file at `path`. -/
def exportTo (fs : FileSystem) (time : String) (items : List Item) (format : Format) (path : String) :
    Except ScanError FileSystem :=
  (fs.write path.toList (render time items format).toUTF8).mapError (.ofFile path)

end MarkerScan.Report
