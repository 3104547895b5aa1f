import MarkerScan.Number.Notation
import MarkerScan.Yaml.Token
/-
  MarkerScan.Yaml.Node — YAML values, and the values of scalars.

  A plain scalar is `null`, a boolean or a number when it reads as one, and a string
  otherwise; hexadecimal and octal numbers start with `0x` and `0o`. Quoted and block
  scalars are strings. A core tag on a plain scalar asks for one kind of value, and
  gives no value where the scalar is not of that kind.
-/

namespace MarkerScan.Yaml

inductive Node where
  | null
  /-- No value at all. -/
  | missing
  | bool (b : Bool)
  | int (n : Int)
  /-- A floating point number, as it is written. -/
  | real (text : List Char)
  | string (s : List Char)
  | list (items : List Node)
  | map (entries : List (Node × Node))
  deriving Repr

/-- The digits of a base, at least one, after a sign or none; 64 bits with a sign. -/
def inBase? (base : Nat) (s : List Char) : Option Int :=
  let negative := s.head? = some '-'
  let digits := if negative ∨ s.head? = some '+' then s.drop 1 else s
  match digits.mapM Json.hexValue? with
  | none => none
  | some ds =>
    if ds.isEmpty || (ds.any fun d => decide (base ≤ d)) then none
    else
      let size : Nat := ds.foldl (fun n d => n * base + d) 0
      let n : Int := if negative then -(size : Int) else size
      if -9223372036854775808 ≤ n ∧ n < 9223372036854775808 then some n else none

/-- The spellings of infinity and of what is no number, with a dot or without. -/
def specialReals : List String :=
  [".inf", ".Inf", ".INF", "+.inf", "+.Inf", "+.INF", "-.inf", "-.Inf", "-.INF", ".nan", "NaN", ".NAN"]

def isReal (s : List Char) : Bool := specialReals.contains (String.ofList s) || (Number.real? s).isSome

def integer? (s : List Char) : Option Int :=
  let prefixed := match s with
    | '0' :: 'x' :: rest => inBase? 16 rest
    | '0' :: 'o' :: rest => inBase? 8 rest
    | '+' :: rest => Number.readSigned? rest
    | _ => none
  prefixed.or (Number.readSigned? s)

/-- The value of a plain scalar. -/
def Node.ofPlain (s : List Char) : Node :=
  if s = ['~'] ∨ s = "null".toList then .null
  else if s = "true".toList then .bool true
  else if s = "false".toList then .bool false
  else match integer? s with
    | some n => .int n
    | none => if isReal s then .real s else .string s

/-- The value of a plain scalar with a core tag. -/
def Node.ofTagged (suffix s : List Char) : Node :=
  if suffix = "bool".toList then
    if s = "true".toList then .bool true else if s = "false".toList then .bool false else .missing
  else if suffix = "int".toList then ((Number.readSigned? s).map Node.int).getD .missing
  else if suffix = "float".toList then if isReal s then .real s else .missing
  else if suffix = "null".toList then if s = ['~'] ∨ s = "null".toList then .null else .missing
  else .string s

/-- The value of a scalar; `tag` is its handle and suffix. -/
def Node.ofScalar (style : ScalarStyle) (tag : Option (List Char × List Char)) (s : List Char) : Node :=
  if style ≠ .plain then .string s
  else match tag with
    | some (handle, suffix) => if handle = ['!', '!'] then .ofTagged suffix s else .string s
    | none => .ofPlain s

/-! ## Mappings -/

mutual
def Node.same : Node → Node → Bool
  | .null, .null => true
  | .missing, .missing => true
  | .bool a, .bool b => a == b
  | .int a, .int b => a == b
  | .real a, .real b => a == b
  | .string a, .string b => a == b
  | .list a, .list b => Node.sameList a b
  | .map a, .map b => Node.sameEntries a b
  | _, _ => false
termination_by structural a => a

def Node.sameList : List Node → List Node → Bool
  | [], [] => true
  | a :: as, b :: bs => a.same b && Node.sameList as bs
  | _, _ => false
termination_by structural a => a

def Node.sameEntries : List (Node × Node) → List (Node × Node) → Bool
  | [], [] => true
  | (k, v) :: as, (l, w) :: bs => k.same l && v.same w && Node.sameEntries as bs
  | _, _ => false
termination_by structural a => a
end

def Node.isMissing : Node → Bool
  | .missing => true
  | _ => false

/-- Puts an entry in place of the one with its key, or after the others. -/
def putEntry (key value : Node) : List (Node × Node) → List (Node × Node)
  | [] => [(key, value)]
  | (k, v) :: rest => if k.same key then (k, value) :: rest else (k, v) :: putEntry key value rest

/-- The entries of a mapping whose keys and values come in turn. A missing key is passed over, and what follows it
is the next key. -/
def entriesOf : Option Node → List (Node × Node) → List Node → List (Node × Node)
  | _, entries, [] => entries
  | none, entries, n :: rest => entriesOf (if n.isMissing then none else some n) entries rest
  | some key, entries, n :: rest => entriesOf none (putEntry key n entries) rest

def Node.ofPairs (nodes : List Node) : Node := .map (entriesOf none [] nodes)

end MarkerScan.Yaml
