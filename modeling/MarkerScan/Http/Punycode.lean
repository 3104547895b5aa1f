/-
  MarkerScan.Http.Punycode — a label of a host name in letters, digits and hyphens.

  The ASCII characters of the label come first, with a hyphen behind them if there are
  any. The others follow by code point: for each one the number of places passed since
  the last one, counted over all code points and all positions between the characters
  handled, as a number in base 36 whose digits end below a threshold. The threshold
  adapts to the numbers written.
-/

namespace MarkerScan.Http.Punycode

/-- `a` to `z` are 0 to 25 and `0` to `9` are 26 to 35. -/
def digit (n : Nat) : Char := if n < 26 then Char.ofNat ('a'.toNat + n) else Char.ofNat ('0'.toNat + n - 26)

/-- What a digit has to reach for another one to follow it. -/
def threshold (place bias : Nat) : Nat := min 26 (max 1 (place - bias))

/-- A number, its lowest digit first. -/
def number (bias place n : Nat) : List Char :=
  let t := threshold place bias
  if h : n < t then [digit n]
  else digit (t + (n - t) % (36 - t)) :: number bias (place + 36) ((n - t) / (36 - t))
termination_by n
decreasing_by
  have : 1 ≤ threshold place bias := by unfold threshold; omega
  have : (n - threshold place bias) / (36 - threshold place bias) ≤ n - threshold place bias := Nat.div_le_self _ _
  omega

/-- Divides by 35 until the number is small, and counts 36 for each time. -/
def reduced (n place : Nat) : Nat × Nat :=
  if 455 < n then reduced (n / 35) (place + 36) else (n, place)
termination_by n

/-- The bias after a number was written as the one that makes `handled` characters. -/
def adapted (first : Bool) (n handled : Nat) : Nat :=
  let n := if first then n / 700 else n / 2
  let (n, place) := reduced (n + n / handled) 0
  place + 36 * n / (n + 38)

structure Progress where
  /-- The digits so far. -/
  digits : List Char := []
  /-- The places passed since the last character. -/
  passed : Nat := 0
  bias : Nat := 72
  /-- How many characters have been handled. -/
  handled : Nat

/-- Passes one character of the label on the round for a code point. -/
def pass (basic code : Nat) (p : Progress) (c : Char) : Progress :=
  if c.toNat < code then { p with passed := p.passed + 1 }
  else if c.toNat = code then
    { digits := p.digits ++ number p.bias 36 p.passed
      passed := 0
      bias := adapted (p.handled == basic) p.passed (p.handled + 1)
      handled := p.handled + 1 }
  else p

/-- A round for each code point; `next` is the first code point without a round. -/
def rounds (label : List Char) (basic : Nat) : List Nat → Nat → Progress → Progress
  | [], _, p => p
  | code :: rest, next, p =>
    let p := { p with passed := p.passed + (code - next) * (p.handled + 1) }
    let p := label.foldl (pass basic code) p
    rounds label basic rest (code + 1) { p with passed := p.passed + 1 }

def encode (label : List Char) : List Char :=
  let basic := label.filter (·.toNat < 128)
  let codes := (((label.filter (128 ≤ ·.toNat)).map Char.toNat).mergeSort (· ≤ ·)).eraseReps
  basic ++ (if basic.isEmpty then [] else ['-'])
    ++ (rounds label basic.length codes 128 { handled := basic.length }).digits

end MarkerScan.Http.Punycode
