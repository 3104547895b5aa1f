import MarkerScan.Json.Basic
import MarkerScan.Number.Notation
/-
  MarkerScan.Json.Printer — JSON texts, in one line or indented.

  Strings escape the quote, the backslash and the controls below the space, with the
  short escapes where JSON has them; every other character stands for itself. `compact`
  writes no blanks. `pretty` gives every item and field a line of its own, two spaces
  deeper than what holds it; an empty array or object stays `[]` or `{}`.
-/

namespace MarkerScan.Json

def hexDigit (n : Nat) : Char := (Nat.digitChar (n % 16))

def escaped (c : Char) : List Char :=
  if c = '"' then ['\\', '"']
  else if c = '\\' then ['\\', '\\']
  else if c = '\n' then ['\\', 'n']
  else if c = '\r' then ['\\', 'r']
  else if c = '\t' then ['\\', 't']
  else if c = '\x08' then ['\\', 'b']
  else if c = '\x0c' then ['\\', 'f']
  else if c.toNat < 0x20 then ['\\', 'u', '0', '0', hexDigit (c.toNat / 16), hexDigit c.toNat]
  else [c]

def stringText (s : String) : List Char := '"' :: (s.toList.flatMap escaped ++ ['"'])

/-- Written out between 0.00001 and 10^16, a whole number with `.0`. -/
def floatStyle : Number.Style := ⟨some (-5, 16), true⟩

def Num.text : Num → List Char
  | .whole n => Nat.toDigits 10 n.toNat
  | .below n => '-' :: Nat.toDigits 10 n.toInt.natAbs
  | .real x => (floatStyle.text x).toList

mutual
def compactText : Json → List Char
  | .null => ['n', 'u', 'l', 'l']
  | .bool true => ['t', 'r', 'u', 'e']
  | .bool false => ['f', 'a', 'l', 's', 'e']
  | .number n => n.text
  | .string s => stringText s
  | .array items => '[' :: compactItems true items
  | .object fields => '{' :: compactFields true fields
termination_by structural j => j

/-- The items after `[`; a comma goes before each but the first. -/
def compactItems (first : Bool) : List Json → List Char
  | [] => [']']
  | i :: rest => (if first then [] else [',']) ++ compactText i ++ compactItems false rest
termination_by structural items => items

def compactFields (first : Bool) : List (String × Json) → List Char
  | [] => ['}']
  | (k, v) :: rest =>
    (if first then [] else [',']) ++ stringText k ++ ':' :: compactText v ++ compactFields false rest
termination_by structural fields => fields
end

def newline (depth : Nat) : List Char := '\n' :: List.replicate (2 * depth) ' '

mutual
/-- The text of a value that stands at `depth`. -/
def prettyText (depth : Nat) : Json → List Char
  | .null => ['n', 'u', 'l', 'l']
  | .bool true => ['t', 'r', 'u', 'e']
  | .bool false => ['f', 'a', 'l', 's', 'e']
  | .number n => n.text
  | .string s => stringText s
  | .array items => '[' :: prettyItems depth true items
  | .object fields => '{' :: prettyFields depth true fields
termination_by structural j => j

def prettyItems (depth : Nat) (first : Bool) : List Json → List Char
  | [] => if first then [']'] else newline depth ++ [']']
  | i :: rest =>
    (if first then [] else [',']) ++ newline (depth + 1) ++ prettyText (depth + 1) i ++ prettyItems depth false rest
termination_by structural items => items

def prettyFields (depth : Nat) (first : Bool) : List (String × Json) → List Char
  | [] => if first then ['}'] else newline depth ++ ['}']
  | (k, v) :: rest =>
    (if first then [] else [',']) ++ newline (depth + 1) ++ stringText k ++ ':' :: ' ' :: prettyText (depth + 1) v
      ++ prettyFields depth false rest
termination_by structural fields => fields
end

def compact (j : Json) : String := String.ofList (compactText j)

def pretty (j : Json) : String := String.ofList (prettyText 0 j)

end MarkerScan.Json
