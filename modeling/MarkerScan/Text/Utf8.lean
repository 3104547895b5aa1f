/-
  MarkerScan.Text.Utf8 — reading bytes as UTF-8, with a substitute for what is not UTF-8.

  The decoder takes one byte at a time. A character begun is kept as the bits read, the
  number of bytes owed and the interval the next byte must lie in; the interval is what
  keeps out overlong forms, surrogates and code points past U+10FFFF. When a byte does
  not fit, everything of the character begun becomes one U+FFFD and the byte is looked at
  afresh, so one substitute stands for each longest beginning of a character.

  The first misfit is remembered as a `Fault`, where it starts and how many bytes were
  taken, so strict reading is the same walk: the text is good when there is no fault.
-/

namespace MarkerScan.Text.Utf8

/-- A character of which some bytes are still owed. -/
structure Begun where
  bits : Nat
  seen : Nat
  owed : Nat
  low : UInt8
  high : UInt8
  deriving DecidableEq, Repr

/-- What is wrong with a byte sequence, and where. -/
inductive Fault where
  /-- `length` bytes from `start` begin no character. -/
  | invalid (start length : Nat)
  /-- The bytes end within the character that starts at `start`. -/
  | incomplete (start : Nat)
  deriving DecidableEq, Repr

def Fault.message : Fault → String
  | .invalid start length => "invalid utf-8 sequence of " ++ toString length ++ " bytes from index " ++ toString start
  | .incomplete start => "incomplete utf-8 byte sequence from index " ++ toString start

structure Decoder where
  /-- The characters so far, latest first. -/
  decoded : List Char
  /-- How many bytes have been taken. -/
  taken : Nat
  begun : Option Begun
  fault : Option Fault
  deriving Repr

def Decoder.start : Decoder := ⟨[], 0, none, none⟩

/-- What stands for bytes that are no character. -/
def substitute : Char := '\uFFFD'

/-- What the first byte of a character of several bytes begins. -/
def begin? (b : UInt8) : Option Begun :=
  let n := b.toNat
  if 0xC2 ≤ n ∧ n ≤ 0xDF then some ⟨n - 0xC0, 1, 1, 0x80, 0xBF⟩
  else if n = 0xE0 then some ⟨0, 1, 2, 0xA0, 0xBF⟩
  else if n = 0xED then some ⟨0xD, 1, 2, 0x80, 0x9F⟩
  else if 0xE1 ≤ n ∧ n ≤ 0xEF then some ⟨n - 0xE0, 1, 2, 0x80, 0xBF⟩
  else if n = 0xF0 then some ⟨0, 1, 3, 0x90, 0xBF⟩
  else if 0xF1 ≤ n ∧ n ≤ 0xF3 then some ⟨n - 0xF0, 1, 3, 0x80, 0xBF⟩
  else if n = 0xF4 then some ⟨4, 1, 3, 0x80, 0x8F⟩
  else none

def Decoder.push (d : Decoder) (c : Char) : Decoder := { d with decoded := c :: d.decoded, begun := none }

/-- Puts the substitute and remembers the fault if it is the first. -/
def Decoder.refuse (d : Decoder) (fault : Fault) : Decoder := { d.push substitute with fault := d.fault.or fault }

/-- A byte between characters. -/
def Decoder.fresh (d : Decoder) (b : UInt8) : Decoder :=
  if b < 0x80 then { d.push (Char.ofNat b.toNat) with taken := d.taken + 1 }
  else match begin? b with
    | some g => { d with begun := some g, taken := d.taken + 1 }
    | none => { d.refuse (.invalid d.taken 1) with taken := d.taken + 1 }

/-- One more byte. -/
def Decoder.step (d : Decoder) (b : UInt8) : Decoder :=
  match d.begun with
  | none => d.fresh b
  | some g =>
    if g.low ≤ b && b ≤ g.high then
      let bits := g.bits * 64 + (b.toNat - 0x80)
      if g.owed ≤ 1 then { d.push (Char.ofNat bits) with taken := d.taken + 1 }
      else { d with begun := some ⟨bits, g.seen + 1, g.owed - 1, 0x80, 0xBF⟩, taken := d.taken + 1 }
    else (d.refuse (.invalid (d.taken - g.seen) g.seen)).fresh b

/-- The end of the bytes: a character begun stays incomplete. -/
def Decoder.finish (d : Decoder) : Decoder :=
  match d.begun with
  | none => d
  | some g => d.refuse (.incomplete (d.taken - g.seen))

def run (bytes : ByteArray) : Decoder := (bytes.data.foldl Decoder.step .start).finish

/-- The text of the bytes, with substitutes. -/
def decodeLossy (bytes : ByteArray) : List Char := (run bytes).decoded.reverse

/-- The text of the bytes, if they are UTF-8. -/
def decodeStrict (bytes : ByteArray) : Except Fault (List Char) :=
  let d := run bytes
  match d.fault with
  | some fault => .error fault
  | none => .ok d.decoded.reverse

/-- The first fault of the bytes. -/
def fault? (bytes : ByteArray) : Option Fault := (run bytes).fault

end MarkerScan.Text.Utf8
