import MarkerScan.Json.Reader
import MarkerScan.Text.Split
/-
  MarkerScan.Http.Address — numeric hosts.

  A host whose last part is a number is an address of four bytes. It has up to four
  parts, decimal, octal after `0` or hexadecimal after `0x`; the last one fills what the
  others leave. It is written as four decimal numbers.

  A host in brackets is an address of eight groups of sixteen bits, where `::` stands
  for groups of zero and the last two groups may be an address of four bytes. It is
  written with `::` for the longest run of two or more zeros, the first of several.
-/

namespace MarkerScan.Http

open Text

/-! ## Four bytes -/

def digitsIn (base : Nat) (digits : List Char) : Option Nat :=
  digits.foldlM (fun n c => do
    let d ← Json.hexValue? c
    if d < base then some (n * base + d) else none) 0

/-- The number that a part of an address is. -/
def partValue? : List Char → Option Nat
  | [] => none
  | '0' :: 'x' :: rest => digitsIn 16 rest
  | '0' :: 'X' :: rest => digitsIn 16 rest
  | '0' :: c :: rest => digitsIn 8 (c :: rest)
  | s => digitsIn 10 s

/-- The parts of a host between its dots, without an empty one at the end. -/
def hostParts (host : List Char) : List (List Char) :=
  let parts := split '.' host
  if parts.getLast? = some [] then parts.dropLast else parts

def endsInNumber (host : List Char) : Bool :=
  match (hostParts host).getLast? with
  | some last => (!last.isEmpty && last.all Char.isDigit) || (partValue? last).isSome
  | none => false

/-- The number that an address of four bytes is. -/
def fourBytes? (host : List Char) : Option Nat := do
  let numbers ← (hostParts host).mapM partValue?
  let last ← numbers.getLast?
  let firsts := numbers.dropLast
  if firsts.length < 4 ∧ firsts.all (· < 256) ∧ last < 1 <<< (8 * (4 - firsts.length)) then
    some (firsts.foldl (fun n b => n * 256 + b) 0 <<< (8 * (4 - firsts.length)) + last)
  else none

def fourBytesText (n : Nat) : List Char :=
  (toString (n / 16777216) ++ "." ++ toString (n / 65536 % 256) ++ "." ++ toString (n / 256 % 256) ++ "."
    ++ toString (n % 256)).toList

/-! ## Eight groups -/

def group? (s : List Char) : Option Nat := if 1 ≤ s.length ∧ s.length ≤ 4 then digitsIn 16 s else none

/-- A byte in decimal digits, without a zero before others. -/
def byte? (s : List Char) : Option Nat := do
  let n ← digitsIn 10 s
  if s.isEmpty ∨ (s.head? = some '0' ∧ 1 < s.length) ∨ 255 < n then none else some n

/-- The last group, which may be four bytes and then is two. -/
def lastGroups? (s : List Char) : Option (List Nat) :=
  match (split '.' s).mapM byte? with
  | some [a, b, c, d] => some [a * 256 + b, c * 256 + d]
  | _ => (group? s).map ([·])

/-- Groups with a colon between them; none at all for no text. -/
def groups? (bytesAtEnd : Bool) (s : List Char) : Option (List Nat) :=
  if s.isEmpty then some []
  else do
    let parts := split ':' s
    let firsts ← parts.dropLast.mapM group?
    let last ← (if bytesAtEnd then lastGroups? else fun s => (group? s).map ([·])) (parts.getLastD [])
    return firsts ++ last

/-- The text before the first `::` and the text after it. -/
def atGap? : List Char → Option (List Char × List Char)
  | ':' :: ':' :: rest => some ([], rest)
  | c :: rest => (atGap? rest).map fun (a, b) => (c :: a, b)
  | [] => none

def eightGroups? (s : List Char) : Option (List Nat) :=
  match atGap? s with
  | some (before, after) => do
    let front ← groups? false before
    let back ← groups? true after
    if front.length + back.length < 8 then
      some (front ++ List.replicate (8 - front.length - back.length) 0 ++ back)
    else none
  | none => do
    let groups ← groups? true s
    if groups.length = 8 then some groups else none

/-- The number of zeros at the front. -/
def zerosAt (groups : List Nat) : Nat := (groups.takeWhile (· == 0)).length

/-- Where the longest run of zeros begins, the first of several, if it has at least two. -/
def longestZeros? (groups : List Nat) : Option Nat :=
  let starts := List.range groups.length
  let longest := (starts.map fun i => zerosAt (groups.drop i)).foldl max 0
  if longest < 2 then none else starts.find? fun i => zerosAt (groups.drop i) == longest

def groupsText (groups : List Nat) : List Char := join ':' (groups.map (Nat.toDigits 16))

def eightGroupsText (groups : List Nat) : List Char :=
  match longestZeros? groups with
  | none => groupsText groups
  | some i =>
    let rest := groups.drop i
    groupsText (groups.take i) ++ ':' :: ':' :: groupsText (rest.drop (zerosAt rest))

end MarkerScan.Http
