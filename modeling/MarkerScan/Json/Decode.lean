import MarkerScan.Json.Basic
import MarkerScan.Json.Printer
import MarkerScan.Text.Quoted
/-
  MarkerScan.Json.Decode — reading typed values out of JSON, with the reason when there is none.

  A record reads from an object or from an array.
  - From an object by key: unknown fields are skipped, a value of the wrong kind is
    reported for the first such key in order, and only then a required field that is not
    there, in the order in which the record declares its fields. An object that stands as
    it was written may name a field twice; `recordOnce` refuses that.
  - From an array by position: fields at the end may be left out if they are not
    required, and nothing may be left over.
  A choice between words reads from the word, or from an object with the word as its only
  key and `null` as its value.
-/

namespace MarkerScan.Json

/-- Why a value is not of the kind wanted. -/
inductive Fault where
  | wrongType (found : Json) (expected : String)
  | wrongValue (found : Json) (expected : String)
  | wrongLength (length : Nat) (expected : String)
  | unknownChoice (name : String) (choices : List String)
  | missingField (key : String)
  | repeatedField (key : String)
  deriving Repr

/-- A value as messages name it. -/
def named : Json → String
  | .null => "null"
  | .bool b => "boolean `" ++ (if b then "true" else "false") ++ "`"
  | .number (.real x) => "floating point `" ++ floatStyle.text x ++ "`"
  | .number n => "integer `" ++ String.ofList n.text ++ "`"
  | .string s => "string " ++ Text.quoted s
  | .array _ => "sequence"
  | .object _ => "map"

/-- Words between back quotes: two with `or`, more as a list. -/
def choicesText (choices : List String) : String :=
  match choices with
  | [a] => "`" ++ a ++ "`"
  | [a, b] => "`" ++ a ++ "` or `" ++ b ++ "`"
  | _ => "one of " ++ ", ".intercalate (choices.map fun c => "`" ++ c ++ "`")

def Fault.message : Fault → String
  | .wrongType found expected => "invalid type: " ++ found.named ++ ", expected " ++ expected
  | .wrongValue found expected => "invalid value: " ++ found.named ++ ", expected " ++ expected
  | .wrongLength length expected => "invalid length " ++ toString length ++ ", expected " ++ expected
  | .unknownChoice name choices => "unknown variant `" ++ name ++ "`, expected " ++ choicesText choices
  | .missingField key => "missing field `" ++ key ++ "`"
  | .repeatedField key => "duplicate field `" ++ key ++ "`"

/-- A way to read a value. -/
abbrev Decoder (α : Type) := Json → Except Fault α

namespace Decode

def string : Decoder String
  | .string s => .ok s
  | j => .error (.wrongType j "a string")

def path : Decoder String
  | .string s => .ok s
  | j => .error (.wrongType j "path string")

/-- A whole number from `least` to `most`. -/
def integer (kind : String) (least most : Nat) : Decoder Nat
  | .number (.whole n) =>
    if least ≤ n.toNat ∧ n.toNat ≤ most then .ok n.toNat else .error (.wrongValue (.number (.whole n)) kind)
  | .number (.below n) => .error (.wrongValue (.number (.below n)) kind)
  | j => .error (.wrongType j kind)

def uint16 : Decoder Nat := integer "u16" 0 (UInt16.size - 1)

def uint32 : Decoder Nat := integer "u32" 0 (UInt32.size - 1)

def uint64 : Decoder Nat := integer "u64" 0 (UInt64.size - 1)

/-- A count of things in memory. -/
def size : Decoder Nat := integer "usize" 0 (UInt64.size - 1)

def positiveSize : Decoder Nat := integer "a nonzero usize" 1 (UInt64.size - 1)

def optional {α : Type} (decode : Decoder α) : Decoder (Option α)
  | .null => .ok none
  | j => (decode j).map some

def list {α : Type} (decode : Decoder α) : Decoder (List α)
  | .array items => items.mapM decode
  | j => .error (.wrongType j "a sequence")

/-- The fields of an object, in the order of their keys. -/
def map {α : Type} (decode : Decoder α) : Decoder (List (String × α))
  | .object fields => fields.mapM fun f => (decode f.2).map fun v => (f.1, v)
  | j => .error (.wrongType j "a map")

/-- One of several words. -/
def choice {α : Type} (choices : List (String × α)) : Decoder α
  | .string s => find s
  | .object [(s, v)] =>
    match find s, v with
    | .ok a, .null => .ok a
    | .ok _, v => .error (.wrongType v "unit")
    | .error fault, _ => .error fault
  | .object fields => .error (.wrongValue (.object fields) "map with a single key")
  | j => .error (.wrongType j "string or map")
where
  find (s : String) : Except Fault α :=
    match choices.lookup s with
    | some a => .ok a
    | none => .error (.unknownChoice s (choices.map (·.1)))

end Decode

/-! ## Records -/

/-- One field of a record: whether it must be there, and when its value is of the wrong kind. -/
structure FieldRule where
  key : String
  required : Bool
  fault? : Json → Option Fault

def faultOf {α : Type} (decode : Decoder α) (j : Json) : Option Fault :=
  match decode j with
  | .ok _ => none
  | .error fault => some fault

def required {α : Type} (key : String) (decode : Decoder α) : FieldRule := ⟨key, true, faultOf decode⟩

def defaulted {α : Type} (key : String) (decode : Decoder α) : FieldRule := ⟨key, false, faultOf decode⟩

def elementsText (n : Nat) : String := toString n ++ if n = 1 then " element" else " elements"

/-- The fault of a record given by position, from its `i`-th field on. -/
def positionalFault? (expected : String) (count : Nat) : Nat → List FieldRule → List Json → Option Fault
  | _, [], [] => none
  | _, [], _ => some (.wrongLength count "fewer elements in array")
  | i, r :: rules, [] =>
    if r.required then some (.wrongLength i expected) else positionalFault? expected count (i + 1) rules []
  | i, r :: rules, v :: values => (r.fault? v).or (positionalFault? expected count (i + 1) rules values)

/-- The values of a record, by key. -/
abbrev Fields := List (String × Json)

def record (name : String) (rules : List FieldRule) : Decoder Fields
  | .object fields =>
    match fields.findSome? fun f => (rules.find? (·.key == f.1)).bind (·.fault? f.2) with
    | some fault => .error fault
    | none =>
      match rules.find? fun r => r.required && (fields.lookup r.key).isNone with
      | some r => .error (.missingField r.key)
      | none => .ok fields
  | .array items =>
    let expected := "struct " ++ name ++ " with " ++ elementsText rules.length
    match positionalFault? expected items.length 0 rules items with
    | some fault => .error fault
    | none => .ok ((rules.map (·.key)).zip items)
  | j => .error (.wrongType j ("struct " ++ name))

/-- A record of a text, where a field that the record has may not come up twice. -/
def recordOnce (name : String) (rules : List FieldRule) : Decoder Fields
  | .object fields =>
    match rules.find? fun r => decide (1 < fields.countP (·.1 == r.key)) with
    | some r => .error (.repeatedField r.key)
    | none => record name rules (.object fields)
  | j => record name rules j

def Fields.get {α : Type} (fields : Fields) (key : String) (decode : Decoder α) : Except Fault α :=
  match fields.lookup key with
  | some v => decode v
  | none => .error (.missingField key)

/-- The value of a field, or `default` if it is not there. -/
def Fields.getD {α : Type} (fields : Fields) (key : String) (decode : Decoder α) (default : α) : Except Fault α :=
  match fields.lookup key with
  | some v => decode v
  | none => .ok default

end MarkerScan.Json
