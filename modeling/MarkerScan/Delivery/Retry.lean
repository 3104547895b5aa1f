import MarkerScan.Settings.Basic
/-
  MarkerScan.Delivery.Retry — why a delivery failed, and trying again.

  A transient failure may go away by itself, so the delivery is worth another try; a
  permanent one is not. After a transient failure there is a wait and another try, until
  the tries allowed are used up; one try is always allowed. The wait after try n, counted
  from 0, is the base delay times 2^n, or times 2^32 - 1 from try 32 on, and never more
  than the longest duration there is.
-/

namespace MarkerScan

/-! ## Failures -/

inductive DeliveryError where
  | transient (reason : String)
  | permanent (reason : String)
  deriving DecidableEq, Repr

namespace DeliveryError

def message : DeliveryError → String
  | .transient reason => "transient delivery failure: " ++ reason
  | .permanent reason => "delivery failed: " ++ reason

def isTransient : DeliveryError → Bool
  | .transient _ => true
  | .permanent _ => false

end DeliveryError

/-! ## Waits and tries -/

/-- A length of time in whole seconds of 64 bits and nanoseconds. -/
structure Duration where
  secs : UInt64
  nanos : Nat
  nanos_lt : nanos < 1000000000 := by decide
  deriving DecidableEq, Repr

namespace Duration

def longest : Duration := { secs := 18446744073709551615, nanos := 999999999 }

def toNanos (d : Duration) : Nat := d.secs.toNat * 1000000000 + d.nanos

def ofMillis (ms : UInt64) : Duration :=
  { secs := ms / 1000, nanos := ms.toNat % 1000 * 1000000, nanos_lt := by omega }

def ofSecs (secs : UInt64) : Duration := { secs := secs, nanos := 0 }

/-- Nanoseconds and seconds are multiplied apart; whole seconds among the nanoseconds are carried over. -/
def times (d : Duration) (factor : UInt32) : Duration :=
  let nanos := d.nanos * factor.toNat
  let secs := d.secs.toNat * factor.toNat + nanos / 1000000000
  if secs < UInt64.size then
    { secs := UInt64.ofNat secs, nanos := nanos % 1000000000, nanos_lt := Nat.mod_lt _ (by decide) }
  else longest

end Duration

structure RetryPolicy where
  maxAttempts : UInt32
  baseDelay : Duration
  deriving DecidableEq, Repr

namespace RetryPolicy

def ofSettings (s : DeliverySettings) : RetryPolicy := ⟨s.maxAttempts, .ofMillis s.baseDelayMs⟩

def standard : RetryPolicy := ofSettings {}

/-- The factor of the wait after a try. -/
def factor (attempt : UInt32) : UInt32 := if attempt < 32 then 1 <<< attempt else 4294967295

/-- The wait after a try, counted from 0. -/
def delayFor (p : RetryPolicy) (attempt : UInt32) : Duration := p.baseDelay.times (factor attempt)

/-- What came of an operation that was tried until it succeeded or was given up. -/
structure Run (σ α : Type) where
  result : Except DeliveryError α
  attempts : Nat
  /-- The waits between the tries. -/
  waits : List Duration
  state : σ

/-- Tries an operation whose try number `attempt` is next, and as often again as `spare` says. -/
def tryFrom {σ α : Type} (p : RetryPolicy) (op : σ → Except DeliveryError α × σ) :
    Nat → Nat → σ → Run σ α
  | spare, attempt, s =>
    match op s with
    | (.ok a, s) => ⟨.ok a, attempt + 1, [], s⟩
    | (.error e, s) =>
      if e.isTransient then
        match spare with
        | 0 => ⟨.error e, attempt + 1, [], s⟩
        | spare + 1 =>
          let r := tryFrom p op spare (attempt + 1) s
          { r with waits := p.delayFor (UInt32.ofNat attempt) :: r.waits }
      else ⟨.error e, attempt + 1, [], s⟩

/-- How many tries are allowed. -/
def allowed (p : RetryPolicy) : Nat := max 1 p.maxAttempts.toNat

def run {σ α : Type} (p : RetryPolicy) (op : σ → Except DeliveryError α × σ) (s : σ) : Run σ α :=
  p.tryFrom op (p.allowed - 1) 0 s

end RetryPolicy

end MarkerScan
