/-
  MarkerScan.Number.Binary64 — floating point numbers of 64 bits, exactly.

  A finite number is a whole mantissa below 2^53 times a power of two. `nearest` rounds
  a fraction to the nearest number, a tie to the even mantissa, and past the largest
  number to infinity. `shortest` goes back: of the decimals that round to the number it
  takes one with the fewest digits, and of those the nearest.
-/

namespace MarkerScan.Number

inductive Binary64 where
  /-- `mantissa * 2 ^ exponent`, with its sign. -/
  | finite (negative : Bool) (mantissa : Nat) (exponent : Int)
  | infinite (negative : Bool)
  | nan
  deriving DecidableEq, Repr

/-- The whole number nearest to `num / den`, the even one of two. -/
def roundDiv (num den : Nat) : Nat :=
  let q := num / den
  let r := num % den
  if 2 * r < den then q
  else if den < 2 * r then q + 1
  else if q % 2 = 0 then q else q + 1

/-- `x * 2 ^ e` for `e ≥ 0`, and `x` otherwise. -/
def shiftUp (x : Nat) (e : Int) : Nat := x <<< e.toNat

/-- `x * 10 ^ e` for `e ≥ 0`, and `x` otherwise. -/
def scaleUp (x : Nat) (e : Int) : Nat := x * Nat.pow 10 e.toNat

/-- The least mantissa of 53 bits. -/
def leastFull : Nat := 4503599627370496

namespace Binary64

def zero (negative : Bool) : Binary64 := .finite negative 0 0

/-- The power of two by which `num / den` has a mantissa of 53 bits, or the least power there is. -/
def exponentFor (num den : Nat) : Int :=
  let e : Int := (num.log2 : Int) - (den.log2 : Int) - 52
  max (if shiftUp num (-e) / shiftUp den e < leastFull then e - 1 else e) (-1074)

/-- The number nearest to `num / den`. -/
def nearest (negative : Bool) (num den : Nat) : Binary64 :=
  if num = 0 then zero negative
  else
    let e := exponentFor num den
    let m := roundDiv (shiftUp num (-e)) (shiftUp den e)
    if m = 0 then zero negative
    else if m = 2 * leastFull then
      if 971 ≤ e then .infinite negative else .finite negative leastFull (e + 1)
    else if 971 < e then .infinite negative
    else .finite negative m e

/-- How many decimal digits a whole number has. -/
def digitCount (n : Nat) : Nat := (Nat.toDigits 10 n).length

/-- The number nearest to `digits * 10 ^ power`. Powers far out of reach are not computed. -/
def ofDecimal (negative : Bool) (digits : Nat) (power : Int) : Binary64 :=
  if digits = 0 then zero negative
  else
    let top := power + digitCount digits
    if 400 < top then .infinite negative
    else if top < -400 then zero negative
    else nearest negative (scaleUp digits power) (scaleUp 1 (-power))

/-- `num / den` lies in `[10 ^ p, 10 ^ (p + 1))` for the answer `p`. -/
def decimalExponent (num den : Nat) : Int :=
  if den ≤ num then (digitCount (num / den) : Int) - 1
  else
    let d := digitCount (den / num)
    if den ≤ scaleUp num ((d : Int) - 1) then -((d : Int) - 1) else -(d : Int)

/-- A decimal: `digits * 10 ^ power`. -/
structure Decimal where
  digits : Nat
  power : Int
  deriving DecidableEq, Repr

/-- The decimal with `n` digits, below or above the number and nearest to it, that rounds to the number. -/
def decimalWith? (mantissa : Nat) (exponent : Int) (n : Nat) : Option Decimal :=
  -- in units of 2 ^ (exponent - 2) the number is 4 * mantissa
  let unit := exponent - 2
  let value := 4 * mantissa
  let low := if mantissa = leastFull ∧ -1074 < exponent then value - 1 else value - 2
  let high := value + 2
  let power := decimalExponent (shiftUp value unit) (shiftUp 1 (-unit)) - (n : Int) + 1
  -- a whole number x of units, and c steps of 10 ^ power, on one scale
  let units (x : Nat) := scaleUp (shiftUp x unit) (-power)
  let steps (c : Nat) := scaleUp (shiftUp c (-unit)) power
  let below := units value / steps 1
  let fits (c : Nat) : Bool :=
    if mantissa % 2 = 0 then decide (units low ≤ steps c) && decide (steps c ≤ units high)
    else decide (units low < steps c) && decide (steps c < units high)
  let above := below + 1
  if fits below then
    if fits above && decide (steps above - units value < units value - steps below) then some ⟨above, power⟩
    else some ⟨below, power⟩
  else if fits above then some ⟨above, power⟩
  else none

/-- The shortest decimal that rounds to the number. Seventeen digits always suffice. -/
def shortest (mantissa : Nat) (exponent : Int) : Decimal :=
  ((List.range' 1 17).findSome? (decimalWith? mantissa exponent)).getD ⟨mantissa, 0⟩

/-- Half a unit and more goes away from zero; what does not fit in 64 bits stops at the limit. -/
def toUnsigned : Binary64 → Nat
  | .finite false m e =>
    let doubled := shiftUp (2 * m) e
    let n := (doubled >>> (-e).toNat + 1) / 2
    min n (UInt64.size - 1)
  | .infinite false => UInt64.size - 1
  | _ => 0

def neg : Binary64 → Binary64
  | .finite s m e => .finite (!s) m e
  | .infinite s => .infinite (!s)
  | .nan => .nan

end Binary64

end MarkerScan.Number
