import MarkerScan.Number.Binary64
/-
  MarkerScan.Number.Notation — numbers read from text and written as text.

  A whole number is read within a limit. Digits are taken from the left, and at each
  character the digit is judged before the size, so a text with both faults reports the
  one that comes first in it. One `+` may stand in front of a number, and one `-` where
  negative numbers are allowed.

  A floating point number has a sign or none, digits with at most one point among them,
  before or after them, and an exponent or none; `inf`, `infinity` and `nan` are read in
  any case. It is written in its shortest digits. A style says up to which place of the
  point a number is written out, and whether a whole number shows a `.0`; outside that
  interval the number is written with one digit before the point and an exponent.
-/

namespace MarkerScan.Number

/-! ## Whole numbers -/

/-- Why a text is no number of the kind wanted. -/
inductive IntegerFault where
  | empty
  | invalidDigit
  | tooLarge
  | zero
  deriving DecidableEq, Repr

def IntegerFault.message : IntegerFault → String
  | .empty => "cannot parse integer from empty string"
  | .invalidDigit => "invalid digit found in string"
  | .tooLarge => "number too large to fit in target type"
  | .zero => "number would be zero for non-zero type"

def digit? (c : Char) : Option Nat := if c.isDigit then some (c.toNat - '0'.toNat) else none

/-- The number that continues `n` by the digits of `s`, if it stays within the limit. -/
def digitsUpTo (limit n : Nat) : List Char → Except IntegerFault Nat
  | [] => .ok n
  | c :: s =>
    match digit? c with
    | none => .error .invalidDigit
    | some d => if n * 10 + d ≤ limit then digitsUpTo limit (n * 10 + d) s else .error .tooLarge

/-- A number from 0 to `limit`. -/
def readUpTo (limit : Nat) (s : List Char) : Except IntegerFault Nat :=
  match s with
  | [] => .error .empty
  | ['+'] => .error .invalidDigit
  | '+' :: digits => digitsUpTo limit 0 digits
  | digits => digitsUpTo limit 0 digits

/-- A number from 1 to `limit`. -/
def readPositive (limit : Nat) (s : List Char) : Except IntegerFault Nat :=
  match readUpTo limit s with
  | .ok 0 => .error .zero
  | r => r

/-- A number of 64 bits with a sign. -/
def readSigned? (s : List Char) : Option Int :=
  match s with
  | '-' :: digits =>
    if digits.isEmpty then none
    else match digitsUpTo 9223372036854775808 0 digits with
      | .ok n => some (-(n : Int))
      | .error _ => none
  | _ => match readUpTo 9223372036854775807 s with
    | .ok n => some (n : Int)
    | .error _ => none

/-! ## Reading floating point numbers -/

def digitsToNat (digits : List Char) : Nat := digits.foldl (fun n c => n * 10 + (digit? c).getD 0) 0

def exponent? (s : List Char) : Option Int :=
  let digits := match s with
    | '-' :: rest => rest
    | '+' :: rest => rest
    | _ => s
  if digits.isEmpty || !digits.all Char.isDigit then none
  else
    let n : Int := digitsToNat digits
    some (if s.head? = some '-' then -n else n)

/-- A number without its sign. -/
def unsignedReal? (negative : Bool) (s : List Char) : Option Binary64 :=
  let lower := s.map Char.toLower
  if lower = "inf".toList ∨ lower = "infinity".toList then some (.infinite negative)
  else if lower = "nan".toList then some .nan
  else
    let whole := s.takeWhile Char.isDigit
    let rest := s.dropWhile Char.isDigit
    let (fraction, rest) := match rest with
      | '.' :: r => (r.takeWhile Char.isDigit, r.dropWhile Char.isDigit)
      | _ => ([], rest)
    if whole.isEmpty && fraction.isEmpty then none
    else
      let power : Option Int := match rest with
        | [] => some 0
        | c :: r => if c = 'e' ∨ c = 'E' then exponent? r else none
      power.map fun p => .ofDecimal negative (digitsToNat (whole ++ fraction)) (p - fraction.length)

def real? (s : List Char) : Option Binary64 :=
  match s with
  | '-' :: rest => unsignedReal? true rest
  | '+' :: rest => unsignedReal? false rest
  | _ => unsignedReal? false s

/-! ## Writing floating point numbers -/

structure Style where
  /-- The places of the point for which the number is written out; `none` for all of them. -/
  positional : Option (Int × Int)
  /-- A whole number written out ends in `.0`. -/
  pointZero : Bool
  deriving DecidableEq, Repr

def zeros (n : Nat) : String := String.ofList (List.replicate n '0')

/-- Without the zeros at the end of the digits. -/
def Binary64.Decimal.text (d : Decimal) : List Char :=
  ((Nat.toDigits 10 d.digits).reverse.dropWhile (· == '0')).reverse

/-- Where the point stands, counted from the front of the digits. -/
def Binary64.Decimal.point (d : Decimal) : Int := digitCount d.digits + d.power

def Style.writtenOut (style : Style) (point : Int) : Bool :=
  match style.positional with
  | none => true
  | some (low, high) => decide (low < point) && decide (point ≤ high)

def Style.digits (style : Style) (digits : List Char) (point : Int) : String :=
  let n : Int := digits.length
  if style.writtenOut point then
    if point ≤ 0 then "0." ++ zeros (-point).toNat ++ String.ofList digits
    else if n ≤ point then
      String.ofList digits ++ zeros (point - n).toNat ++ if style.pointZero then ".0" else ""
    else String.ofList (digits.take point.toNat) ++ "." ++ String.ofList (digits.drop point.toNat)
  else
    String.ofList (digits.take 1)
      ++ (if n ≤ 1 then "" else "." ++ String.ofList (digits.drop 1))
      ++ "e" ++ toString (point - 1)

def Style.text (style : Style) : Binary64 → String
  | .nan => "NaN"
  | .infinite negative => if negative then "-inf" else "inf"
  | .finite negative m e =>
    (if negative then "-" else "")
      ++ if m = 0 then (if style.pointZero then "0.0" else "0")
        else
          let d := Binary64.shortest m e
          style.digits d.text d.point

end MarkerScan.Number
