import MarkerScan.Number.Notation
import MarkerScan.Text.LetterCase
import MarkerScan.Text.Quoted
import MarkerScan.Yaml.Node
import MarkerScan.Json.Basic
/-
  MarkerScan.Settings.Value — values in settings files, and what they can stand for.

  A value remembers the file it came from. A scalar stands for a string as its text. It
  stands for a count when it is a whole number that is not negative, a word for yes or
  no, a boolean, or a number with a fraction, which is rounded.
-/

namespace MarkerScan.Settings

inductive Scalar where
  | null
  | bool (b : Bool)
  | int (n : Int)
  | real (x : Number.Binary64)
  | string (s : String)
  deriving DecidableEq, Repr

inductive Value where
  | scalar (origin : Option String) (s : Scalar)
  | list (origin : Option String) (items : List Value)
  | table (origin : Option String) (fields : List (String × Value))
  deriving Repr

namespace Value

mutual
def decEq : (a b : Value) → Decidable (a = b)
  | .scalar o s, .scalar o' s' => decidable_of_iff (o = o' ∧ s = s') (by rw [scalar.injEq])
  | .list o xs, .list o' ys =>
    have := decEqList xs ys
    decidable_of_iff (o = o' ∧ xs = ys) (by rw [list.injEq])
  | .table o xs, .table o' ys =>
    have := decEqFields xs ys
    decidable_of_iff (o = o' ∧ xs = ys) (by rw [table.injEq])
  | .scalar _ _, .list _ _ => .isFalse nofun
  | .scalar _ _, .table _ _ => .isFalse nofun
  | .list _ _, .scalar _ _ => .isFalse nofun
  | .list _ _, .table _ _ => .isFalse nofun
  | .table _ _, .scalar _ _ => .isFalse nofun
  | .table _ _, .list _ _ => .isFalse nofun
termination_by structural a => a

def decEqList : (xs ys : List Value) → Decidable (xs = ys)
  | [], [] => .isTrue rfl
  | x :: xs, y :: ys =>
    have := decEq x y
    have := decEqList xs ys
    decidable_of_iff (x = y ∧ xs = ys) (by rw [List.cons.injEq])
  | [], _ :: _ => .isFalse nofun
  | _ :: _, [] => .isFalse nofun
termination_by structural xs => xs

def decEqFields : (xs ys : List (String × Value)) → Decidable (xs = ys)
  | [], [] => .isTrue rfl
  | (k, v) :: xs, (k', v') :: ys =>
    have := decEq v v'
    have := decEqFields xs ys
    decidable_of_iff ((k = k' ∧ v = v') ∧ xs = ys) (by rw [List.cons.injEq, Prod.mk.injEq])
  | [], _ :: _ => .isFalse nofun
  | _ :: _, [] => .isFalse nofun
termination_by structural xs => xs
end

instance : DecidableEq Value := decEq

def null : Value := .scalar none .null

def emptyTable : Value := .table none []

def origin : Value → Option String
  | .scalar o _ => o
  | .list o _ => o
  | .table o _ => o

/-! ## From the formats -/

mutual
/-- A JSON value. A whole number past 63 bits becomes a floating point number. -/
def ofJson (origin : Option String) : Json → Value
  | .null => .scalar origin .null
  | .bool b => .scalar origin (.bool b)
  | .string s => .scalar origin (.string s)
  | .number (.whole n) =>
    .scalar origin (if n.toNat < 9223372036854775808 then .int n.toNat else .real (.nearest false n.toNat 1))
  | .number (.below n) => .scalar origin (.int n.toInt)
  | .number (.real x) => .scalar origin (.real x)
  | .array items => .list origin (ofJsonList origin items)
  | .object fields => .table origin (ofJsonFields origin fields)
termination_by structural j => j

def ofJsonList (origin : Option String) : List Json → List Value
  | [] => []
  | i :: rest => ofJson origin i :: ofJsonList origin rest
termination_by structural items => items

def ofJsonFields (origin : Option String) : List (String × Json) → List (String × Value)
  | [] => []
  | (k, v) :: rest => (k, ofJson origin v) :: ofJsonFields origin rest
termination_by structural fields => fields
end

mutual
/-- A YAML node, or the text of a number that has no decimal form. Only string keys count. -/
def ofYaml (origin : Option String) : Yaml.Node → Except (List Char) Value
  | .null => .ok (.scalar origin .null)
  | .missing => .ok (.scalar origin .null)
  | .bool b => .ok (.scalar origin (.bool b))
  | .int n => .ok (.scalar origin (.int n))
  | .string s => .ok (.scalar origin (.string (String.ofList s)))
  | .real text => match Number.real? text with
    | some x => .ok (.scalar origin (.real x))
    | none => .error text
  | .list items => (ofYamlList origin items).map (.list origin)
  | .map entries => (ofYamlEntries origin entries).map (.table origin)
termination_by structural n => n

def ofYamlList (origin : Option String) : List Yaml.Node → Except (List Char) (List Value)
  | [] => .ok []
  | i :: rest => match ofYaml origin i, ofYamlList origin rest with
    | .ok v, .ok vs => .ok (v :: vs)
    | .error e, _ => .error e
    | _, .error e => .error e
termination_by structural items => items

def ofYamlEntries (origin : Option String) : List (Yaml.Node × Yaml.Node) → Except (List Char) (List (String × Value))
  | [] => .ok []
  | (.string k, v) :: rest => match ofYaml origin v, ofYamlEntries origin rest with
    | .ok v, .ok vs => .ok ((String.ofList k, v) :: vs)
    | .error e, _ => .error e
    | _, .error e => .error e
  | _ :: rest => ofYamlEntries origin rest
termination_by structural entries => entries
end

/-! ## What a value stands for -/

/-- How numbers stand in strings. -/
def plainStyle : Number.Style := ⟨none, false⟩

/-- How numbers stand in messages: a whole number with `.0`. -/
def messageStyle : Number.Style := ⟨none, true⟩

/-- A value as messages name it. -/
def named : Value → String
  | .scalar _ .null => "unit value"
  | .scalar _ (.bool b) => "boolean `" ++ (if b then "true" else "false") ++ "`"
  | .scalar _ (.int n) => "integer `" ++ toString n ++ "`"
  | .scalar _ (.real x) => "floating point `" ++ messageStyle.text x ++ "`"
  | .scalar _ (.string s) => "string " ++ Text.quoted s
  | .list _ _ => "sequence"
  | .table _ _ => "map"

def string? : Value → Option String
  | .scalar _ (.bool b) => some (if b then "true" else "false")
  | .scalar _ (.int n) => some (toString n)
  | .scalar _ (.real x) => some (plainStyle.text x)
  | .scalar _ (.string s) => some s
  | _ => none

def yesWords : List String := ["true", "on", "yes"]

def noWords : List String := ["false", "off", "no"]

/-- The count a word or numeral stands for. -/
def countOfWord? (s : String) : Option Nat :=
  let l := String.ofList (Text.lower s.toList)
  if yesWords.contains l then some 1
  else if noWords.contains l then some 0
  else match Number.readUpTo (UInt64.size - 1) s.toList with
    | .ok n => some n
    | .error _ => none

/-- The count a value stands for, or how messages name it and what they expect. -/
def count : Value → Except (String × String) Nat
  | .scalar _ (.int n) =>
    if 0 ≤ n then .ok n.toNat
    else .error ("integer 64 bit `" ++ toString n ++ "`", "an unsigned 64 bit or less integer")
  | .scalar _ (.bool b) => .ok (if b then 1 else 0)
  | .scalar _ (.real x) => .ok x.toUnsigned
  | .scalar o (.string s) => match countOfWord? s with
    | some n => .ok n
    | none => .error ((Value.scalar o (.string s)).named, "an integer")
  | v => .error (v.named, "an integer")

end Value

end MarkerScan.Settings
