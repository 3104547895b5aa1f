import MarkerScan.Item.Basic
import MarkerScan.Json.Decode
import MarkerScan.Json.Outline
import MarkerScan.Text.LetterCase
import MarkerScan.Text.Split
/-
  MarkerScan.Notion.Schema — the properties of a database.

  A property has a kind, and a property of kind `status` or `select` has options.
  Properties stand in the order of their names, each name once, and looking one up takes
  the first that fits: by kind alone, or by kind and by one of several names whatever
  their case.

  A schema is decoded out of the text of an answer as it stands: the last of several
  properties with one name counts, a property may not say twice what it is, and what the
  schema has no use for only has to be well formed.
-/

namespace MarkerScan.Notion

open Text

/-- One property: its kind, and the names of the options under `status` and under `select`. -/
structure Property where
  kind : String
  status : Option (List String)
  select : Option (List String)
  deriving DecidableEq, Repr

structure Schema where
  properties : List (String × Property)
  /-- The properties stand in the order of their names, each name once. -/
  ordered : Json.Ordered properties
  deriving DecidableEq, Repr

/-! ## Reading a schema -/

open Json Json.Decode

def optionDecoder : Decoder String := fun j => do
  let f ← recordOnce "SelectOption" [required "name" string] j
  f.get "name" string

def optionsDecoder : Decoder (List String) := fun j => do
  let f ← recordOnce "OptionList" [defaulted "options" (list optionDecoder)] j
  f.getD "options" (list optionDecoder) []

def Property.decode : Decoder Property := fun j => do
  let f ← recordOnce "PropertyDef"
    [required "type" string, defaulted "status" (optional optionsDecoder),
     defaulted "select" (optional optionsDecoder)] j
  return {
    kind := ← f.get "type" string
    status := ← f.getD "status" (optional optionsDecoder) none
    select := ← f.getD "select" (optional optionsDecoder) none }

/-- The schema with these properties; a later one replaces an earlier one of its name. -/
def Schema.ofProperties (properties : List (String × Property)) : Schema :=
  ⟨sortFields properties, ordered_sortFields properties⟩

def Schema.decode : Decoder Schema := fun j => do
  let f ← recordOnce "DatabaseSchema" [defaulted "properties" (map Property.decode)] j
  return .ofProperties (← f.getD "properties" (map Property.decode) [])

/-- The schema that a text holds. -/
def Schema.ofText? (text : List Char) : Option Schema :=
  (outline? text).bind fun j => (Schema.decode j).toOption

/-! ## Options -/

/-- The options of a property of a kind that has options. -/
def Property.options (p : Property) : List String :=
  if p.kind = "status" then p.status.getD []
  else if p.kind = "select" then p.select.getD []
  else []

def sameAsciiName (a b : String) : Bool := sameAscii a.toList b.toList

/-- The names of options that mean that nothing is done yet. -/
def openNames : List String := ["To Do", "TODO", "Not started", "할 일", "대기", "Backlog", "Open"]

/-- The first option that means that nothing is done yet, or else the first option. -/
def Property.openOption? (p : Property) : Option String :=
  (p.options.find? fun o => openNames.any (sameAsciiName o)).or p.options.head?

/-- The names of a level, the one to make up an option with first. -/
def priorityNames : Priority → String × List String
  | .high => ("High", ["높음"])
  | .medium => ("Medium", ["보통"])
  | .low => ("Low", ["낮음"])

/-- The first option that names the level, or else the name of a new one. -/
def Property.priorityOption (p : Property) (level : Priority) : String :=
  let (name, others) := priorityNames level
  (p.options.find? fun o => (name :: others).any (sameAsciiName o)).getD name

/-! ## Looking up properties -/

def sameName (a b : String) : Bool := lower a.toList == lower b.toList

namespace Schema

/-- The first property of a kind. -/
def ofKind? (s : Schema) (kind : String) : Option (String × Property) :=
  s.properties.find? fun p => p.2.kind == kind

/-- The first property of a kind with one of these names. -/
def named? (s : Schema) (kind : String) (names : List String) : Option (String × Property) :=
  s.properties.find? fun p => p.2.kind == kind && names.any (sameName · p.1)

/-- Whether a name speaks of a status. -/
def speaksOfStatus (name : String) : Bool :=
  let l := lower name.toList
  contains "status".toList l || contains "상태".toList l

/-- The first `select` property whose name speaks of a status, or else the first one. -/
def statusSelect? (s : Schema) : Option (String × Property) :=
  let selects := s.properties.filter (·.2.kind == "select")
  (selects.find? fun p => speaksOfStatus p.1).or selects.head?

end Schema

end MarkerScan.Notion
