import MarkerScan.Json.Basic
import MarkerScan.Number.Notation
/-
  MarkerScan.Json.Reader — reading a JSON text.

  The grammar is the strict one: no comments, no trailing commas, no leading zeros, no
  control characters in strings, no lone surrogates, and at most 127 arrays and objects
  inside one another. Fields come out in the order of their keys, the last of equal keys
  counting.

  A number without fraction and exponent that fits in 64 bits is whole. Any other one is
  floating point: its leading digits, as many as fit in 64 bits, are rounded to a
  floating point number, and that is multiplied or divided by a power of ten once, or
  more than once for powers beyond 10^308. A number too large to be finite is no JSON.
-/

namespace MarkerScan.Json

open Number (digit? shiftUp Binary64)

def isSpace (c : Char) : Bool := c == ' ' || c == '\t' || c == '\n' || c == '\r'

def skipSpaces (s : List Char) : List Char := s.dropWhile isSpace

def hexValue? (c : Char) : Option Nat :=
  if c.isDigit then some (c.toNat - '0'.toNat)
  else if 'a' ≤ c ∧ c ≤ 'f' then some (c.toNat - 'a'.toNat + 10)
  else if 'A' ≤ c ∧ c ≤ 'F' then some (c.toNat - 'A'.toNat + 10)
  else none

def hex4? (a b c d : Char) : Option Nat := do
  let a ← hexValue? a
  let b ← hexValue? b
  let c ← hexValue? c
  let d ← hexValue? d
  return ((a * 16 + b) * 16 + c) * 16 + d

def isHighSurrogate (n : Nat) : Bool := decide (0xD800 ≤ n) && decide (n ≤ 0xDBFF)

def isLowSurrogate (n : Nat) : Bool := decide (0xDC00 ≤ n) && decide (n ≤ 0xDFFF)

def simpleEscape? : Char → Option Char
  | '"' => some '"'
  | '\\' => some '\\'
  | '/' => some '/'
  | 'b' => some '\x08'
  | 'f' => some '\x0c'
  | 'n' => some '\n'
  | 'r' => some '\r'
  | 't' => some '\t'
  | _ => none

/-- Where reading a string stands. -/
inductive StringState where
  | plain
  /-- After a backslash. -/
  | escape
  /-- After `\u` and some hexadecimal digits, the latest first; `high` is a high surrogate read before. -/
  | unicode (high : Option Nat) (digits : List Char)
  /-- After a high surrogate. -/
  | surrogate (high : Nat)
  /-- After a high surrogate and a backslash. -/
  | surrogateEscape (high : Nat)
  deriving DecidableEq, Repr

/-- What a code unit given by four hexadecimal digits leads to: a character, or a wait for the second half of one. -/
def codeUnit? (high : Option Nat) (n : Nat) : Option (Option Char × StringState) :=
  match high with
  | none =>
    if isHighSurrogate n then some (none, .surrogate n)
    else if isLowSurrogate n then none
    else some (some (Char.ofNat n), .plain)
  | some h =>
    if isLowSurrogate n then some (some (Char.ofNat (0x10000 + (h - 0xD800) * 0x400 + (n - 0xDC00))), .plain)
    else none

/-- The string whose opening quote has been read, and what follows its closing quote. -/
def stringBody (state : StringState) (read : List Char) : List Char → Option (String × List Char)
  | [] => none
  | c :: rest =>
    match state with
    | .plain =>
      if c = '"' then some (String.ofList read.reverse, rest)
      else if c = '\\' then stringBody .escape read rest
      else if c.toNat < 0x20 then none
      else stringBody .plain (c :: read) rest
    | .escape =>
      if c = 'u' then stringBody (.unicode none []) read rest
      else match simpleEscape? c with
        | some d => stringBody .plain (d :: read) rest
        | none => none
    | .unicode high [d₃, d₂, d₁] =>
      match (hex4? d₁ d₂ d₃ c).bind (codeUnit? high) with
      | some (some d, next) => stringBody next (d :: read) rest
      | some (none, next) => stringBody next read rest
      | none => none
    | .unicode high digits => stringBody (.unicode high (c :: digits)) read rest
    | .surrogate high => if c = '\\' then stringBody (.surrogateEscape high) read rest else none
    | .surrogateEscape high => if c = 'u' then stringBody (.unicode (some high) []) read rest else none

/-! ## Numbers -/

/-- `a * 10 ^ p`, or `a / 10 ^ -p` for a negative `p`, rounded. -/
def scaleOnce (a : Binary64) (p : Int) : Binary64 :=
  let scale := Binary64.ofDecimal false 1 (p.natAbs : Int)
  match a, scale with
  | .finite negative m e, .finite _ n f =>
    if 0 ≤ p then
      Binary64.nearest negative (shiftUp (m * n) (e + f)) (shiftUp 1 (-(e + f)))
    else Binary64.nearest negative (shiftUp m (e - f)) (shiftUp n (f - e))
  | _, _ => a

/-- Scales by steps of at most 10^308. -/
def scaleBy : Nat → Binary64 → Int → Option Binary64
  | 0, a, _ => some a
  | steps + 1, a, p =>
    if p.natAbs ≤ 308 then
      match scaleOnce a p with
      | .infinite _ => none
      | x => some x
    else if a = Binary64.zero false then some a
    else if 0 ≤ p then none
    else scaleBy steps (scaleOnce a (-308)) (p + 308)

/-- The floating point number of leading digits and a power of ten. A power below -2000 always gives zero. -/
def realOf (negative : Bool) (digits : Nat) (power : Int) : Option Num :=
  let x := Binary64.nearest false digits 1
  (scaleBy 10 x (max power (-2000))).map fun x => .real (if negative then x.neg else x)

/-- Leading digits as far as they fit in 64 bits, and how many digits were left out. -/
def leadingDigits : List Char → Nat × Nat → Nat × Nat
  | [], acc => acc
  | c :: rest, (n, 0) =>
    let next := n * 10 + ((digit? c).getD 0)
    if next < UInt64.size then leadingDigits rest (next, 0) else leadingDigits rest (n, 1)
  | _ :: rest, (n, dropped) => leadingDigits rest (n, dropped + 1)

/-- The digits of a number: whole part, fraction if there is one, exponent if there is one. -/
structure NumberParts where
  whole : List Char
  fraction : Option (List Char)
  exponent : Option Int
  deriving Repr

def wholePart? (s : List Char) : Option (List Char × List Char) :=
  match s with
  | '0' :: rest => if (rest.head?.any Char.isDigit) then none else some (['0'], rest)
  | _ =>
    let digits := s.takeWhile Char.isDigit
    if digits.isEmpty then none else some (digits, s.dropWhile Char.isDigit)

def fractionPart? (s : List Char) : Option (Option (List Char) × List Char) :=
  match s with
  | '.' :: rest =>
    let digits := rest.takeWhile Char.isDigit
    if digits.isEmpty then none else some (some digits, rest.dropWhile Char.isDigit)
  | _ => some (none, s)

def digitsValue (digits : List Char) : Nat := digits.foldl (fun n c => n * 10 + (digit? c).getD 0) 0

def exponentDigits? (negative : Bool) (s : List Char) : Option (Option Int × List Char) :=
  let digits := s.takeWhile Char.isDigit
  if digits.isEmpty then none
  else
    let n : Int := digitsValue digits
    some (some (if negative then -n else n), s.dropWhile Char.isDigit)

def exponentPart? (s : List Char) : Option (Option Int × List Char) :=
  match s with
  | c :: rest =>
    if c = 'e' ∨ c = 'E' then
      match rest with
      | '-' :: rest => exponentDigits? true rest
      | '+' :: rest => exponentDigits? false rest
      | _ => exponentDigits? false rest
    else some (none, s)
  | [] => some (none, [])

def NumberParts.value? (negative : Bool) (p : NumberParts) : Option Num :=
  let (n, dropped) := leadingDigits p.whole (0, 0)
  match p.fraction, p.exponent with
  | none, none =>
    if dropped = 0 then
      if !negative then some (.whole (UInt64.ofNat n))
      else if 0 < n ∧ n ≤ 9223372036854775808 then some (.below (Int64.ofInt (-(n : Int))))
      else realOf true n 0
    else realOf negative n dropped
  | fraction, exponent =>
    let digits := fraction.getD []
    let (m, left) := leadingDigits digits (n, 0)
    let power : Int := (dropped : Int) - ((digits.length - left : Nat) : Int)
    realOf negative m (power + exponent.getD 0)

def unsignedNumber? (negative : Bool) (s : List Char) : Option (Num × List Char) := do
  let (whole, s) ← wholePart? s
  let (fraction, s) ← fractionPart? s
  let (exponent, s) ← exponentPart? s
  let n ← NumberParts.value? negative ⟨whole, fraction, exponent⟩
  return (n, s)

def number? (s : List Char) : Option (Num × List Char) :=
  match s with
  | '-' :: rest => unsignedNumber? true rest
  | _ => unsignedNumber? false s

/-! ## Values -/

/-- Steps needed at most: one for every character, and one at the end. -/
def fuelFor (s : List Char) : Nat := 2 * s.length + 2

mutual
/-- A value, and what follows it. `depth` arrays and objects may still be opened. -/
def value? : Nat → Nat → List Char → Option (Json × List Char)
  | 0, _, _ => none
  | fuel + 1, depth, s =>
    match skipSpaces s with
    | [] => none
    | '"' :: rest => (stringBody .plain [] rest).map fun r => (.string r.1, r.2)
    | '[' :: rest =>
      match depth with
      | 0 => none
      | 1 => none
      | depth + 1 =>
        match skipSpaces rest with
        | ']' :: rest => some (.array [], rest)
        | rest => items? fuel depth [] rest
    | '{' :: rest =>
      match depth with
      | 0 => none
      | 1 => none
      | depth + 1 =>
        match skipSpaces rest with
        | '}' :: rest => some (.object [], rest)
        | rest => fields? fuel depth [] rest
    | 'n' :: 'u' :: 'l' :: 'l' :: rest => some (.null, rest)
    | 't' :: 'r' :: 'u' :: 'e' :: rest => some (.bool true, rest)
    | 'f' :: 'a' :: 'l' :: 's' :: 'e' :: rest => some (.bool false, rest)
    | s => (number? s).map fun r => (.number r.1, r.2)

/-- The items of an array from the next one on; `read` holds those before it, the latest first. -/
def items? : Nat → Nat → List Json → List Char → Option (Json × List Char)
  | 0, _, _, _ => none
  | fuel + 1, depth, read, s =>
    match value? fuel depth s with
    | none => none
    | some (v, rest) =>
      match skipSpaces rest with
      | ',' :: rest => items? fuel depth (v :: read) rest
      | ']' :: rest => some (.array (v :: read).reverse, rest)
      | _ => none

/-- The fields of an object from the next one on. -/
def fields? : Nat → Nat → List (String × Json) → List Char → Option (Json × List Char)
  | 0, _, _, _ => none
  | fuel + 1, depth, read, s =>
    match skipSpaces s with
    | '"' :: rest =>
      match stringBody .plain [] rest with
      | none => none
      | some (key, rest) =>
        match skipSpaces rest with
        | ':' :: rest =>
          match value? fuel depth rest with
          | none => none
          | some (v, rest) =>
            match skipSpaces rest with
            | ',' :: rest => fields? fuel depth ((key, v) :: read) rest
            | '}' :: rest => some (Json.ofFields ((key, v) :: read).reverse, rest)
            | _ => none
        | _ => none
    | _ => none
end

/-- The value of a whole text. -/
def parse? (s : List Char) : Option Json :=
  match value? (fuelFor s) 128 s with
  | some (v, rest) => if (skipSpaces rest).isEmpty then some v else none
  | none => none

end MarkerScan.Json
