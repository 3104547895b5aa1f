import Mathlib.Algebra.Group.Nat.Defs
import MarkerScan.Delivery.Retry
/-
  MarkerScan.Proofs.Delivery.Backoff — how long the waits between two tries are.

  A duration is told by its nanoseconds. Its seconds and its nanoseconds, multiplied apart,
  come to the product as long as there is such a duration, and to the longest one otherwise
  (`toNanos_times`). The factor of the wait after try n is 2^n up to the greatest number of
  32 bits (`toNat_factor`).

  The multiplication is done in words of 64 bits. The product of the seconds and the carry
  to it are checked, the product of the nanoseconds is not (`timesInWords?`); it has room
  (`nanos_mul_lt`), so the words say what the numbers say (`timesInWords?_getD`).

  Proved, for every base and every number of a try: `delayFor_exact`.
-/

namespace MarkerScan

namespace Duration

variable (d : Duration) (factor : UInt32)

theorem toNanos_longest : longest.toNanos = UInt64.size * 1000000000 - 1 := by decide

theorem toNanos_inj {d d' : Duration} (h : d.toNanos = d'.toNanos) : d = d' := by
  obtain ⟨secs, nanos, hn⟩ := d
  obtain ⟨secs', nanos', hn'⟩ := d'
  have same : secs.toNat = secs'.toNat ∧ nanos = nanos' := by
    simp only [toNanos] at h
    omega
  obtain rfl := UInt64.toNat_inj.mp same.1
  obtain rfl := same.2
  rfl

theorem toNanos_le_longest : d.toNanos ≤ longest.toNanos := by
  have hsecs : d.secs.toNat < UInt64.size := d.secs.toNat_lt_size
  have hnanos := d.nanos_lt
  rw [toNanos_longest, toNanos]
  omega

theorem exists_of_le_longest {n : Nat} (h : n ≤ longest.toNanos) : ∃ d : Duration, d.toNanos = n := by
  have fits : n / 1000000000 < UInt64.size :=
    Nat.div_lt_of_lt_mul (Nat.lt_of_le_of_lt h (by rw [toNanos_longest]; decide))
  refine ⟨⟨.ofNat (n / 1000000000), n % 1000000000, Nat.mod_lt _ (by decide)⟩, ?_⟩
  simp only [toNanos, UInt64.toNat_ofNat_of_lt' fits]
  omega

/-- What is carried over is not lost. -/
theorem toNanos_mul : d.toNanos * factor.toNat =
    (d.secs.toNat * factor.toNat + d.nanos * factor.toNat / 1000000000) * 1000000000 +
      d.nanos * factor.toNat % 1000000000 := by
  have carried := Nat.div_add_mod (d.nanos * factor.toNat) 1000000000
  rw [toNanos, Nat.add_mul, Nat.mul_right_comm]
  omega

/-- A product fits exactly when its whole seconds do. -/
theorem toNanos_times : (d.times factor).toNanos = min (d.toNanos * factor.toNat) longest.toNanos := by
  have rest : d.nanos * factor.toNat % 1000000000 < 1000000000 := Nat.mod_lt _ (by decide)
  have product := d.toNanos_mul factor
  unfold times
  simp only
  split
  case isTrue fits =>
    have exact : toNanos ⟨.ofNat (d.secs.toNat * factor.toNat + d.nanos * factor.toNat / 1000000000),
        d.nanos * factor.toNat % 1000000000, rest⟩ = d.toNanos * factor.toNat := by
      rw [product, toNanos, UInt64.toNat_ofNat_of_lt' fits]
    rw [exact, Nat.min_eq_left]
    rw [← exact]
    exact toNanos_le_longest _
  case isFalse large =>
    rw [Nat.min_eq_right]
    rw [product, toNanos_longest]
    omega

/-! ## In words -/

def product? (a b : UInt64) : Option UInt64 := if a.toNat * b.toNat < UInt64.size then some (a * b) else none

def sum? (a b : UInt64) : Option UInt64 := if a.toNat + b.toNat < UInt64.size then some (a + b) else none

theorem toNat_mod_lt (nanos : UInt64) : (nanos % 1000000000).toNat < 1000000000 := by
  rw [UInt64.toNat_mod]
  exact Nat.mod_lt _ (by decide)

/-- The nanoseconds are multiplied as they are; the seconds, and the carry to them, only if there is room. -/
def timesInWords? : Option Duration :=
  let nanos := UInt64.ofNat d.nanos * factor.toUInt64
  (product? d.secs factor.toUInt64).bind fun secs =>
    (sum? secs (nanos / 1000000000)).map fun secs => ⟨secs, (nanos % 1000000000).toNat, toNat_mod_lt nanos⟩

/-- The nanoseconds of less than a second times a number of 32 bits are a number of 64 bits. -/
theorem nanos_mul_lt : d.nanos * factor.toNat < UInt64.size :=
  calc d.nanos * factor.toNat
      ≤ 1000000000 * factor.toNat := Nat.mul_le_mul_right _ (Nat.le_of_lt d.nanos_lt)
    _ < 1000000000 * UInt32.size := Nat.mul_lt_mul_of_pos_left factor.toNat_lt_size (by decide)
    _ ≤ UInt64.size := by decide

theorem product?_eq_some_iff {a b c : UInt64} : product? a b = some c ↔ c.toNat = a.toNat * b.toNat := by
  unfold product?
  split
  case isTrue fits =>
    rw [Option.some.injEq, ← UInt64.toNat_inj, UInt64.toNat_mul, Nat.mod_eq_of_lt fits, eq_comm]
  case isFalse large =>
    have := c.toNat_lt_size
    simp only [reduceCtorEq, false_iff]
    omega

theorem sum?_eq_some_iff {a b c : UInt64} : sum? a b = some c ↔ c.toNat = a.toNat + b.toNat := by
  unfold sum?
  split
  case isTrue fits =>
    rw [Option.some.injEq, ← UInt64.toNat_inj, UInt64.toNat_add, Nat.mod_eq_of_lt fits, eq_comm]
  case isFalse large =>
    have := c.toNat_lt_size
    simp only [reduceCtorEq, false_iff]
    omega

/-- The words have a product exactly when there is one. -/
theorem timesInWords?_eq_some_iff {product : Duration} :
    d.timesInWords? factor = some product ↔ product.toNanos = d.toNanos * factor.toNat := by
  have nanos : (UInt64.ofNat d.nanos * factor.toUInt64).toNat = d.nanos * factor.toNat := by
    rw [UInt64.toNat_mul, UInt32.toNat_toUInt64, UInt64.toNat_ofNat_of_lt' (Nat.lt_trans d.nanos_lt (by decide)),
      Nat.mod_eq_of_lt (d.nanos_mul_lt factor)]
  have billion : (1000000000 : UInt64).toNat = 1000000000 := rfl
  have whole := d.toNanos_mul factor
  unfold timesInWords?
  simp only [Option.bind_eq_some_iff, Option.map_eq_some_iff, product?_eq_some_iff, sum?_eq_some_iff,
    UInt64.toNat_div, UInt64.toNat_mod, UInt32.toNat_toUInt64, nanos, billion]
  constructor
  · rintro ⟨secs, hsecs, total, htotal, rfl⟩
    rw [whole, toNanos, htotal, hsecs]
  · intro h
    obtain ⟨total, rest, hrest⟩ := product
    rw [whole, toNanos] at h
    simp only at h
    have hlt : d.nanos * factor.toNat % 1000000000 < 1000000000 := Nat.mod_lt _ (by decide)
    have fits := total.toNat_lt_size
    refine ⟨UInt64.ofNat (d.secs.toNat * factor.toNat), UInt64.toNat_ofNat_of_lt' (by omega), total, ?_, ?_⟩
    · rw [UInt64.toNat_ofNat_of_lt' (by omega)]
      omega
    · have : d.nanos * factor.toNat % 1000000000 = rest := by omega
      simp only [this]

theorem timesInWords?_getD : (d.timesInWords? factor).getD longest = d.times factor := by
  have words := fun product => @timesInWords?_eq_some_iff d factor product
  apply toNanos_inj
  rw [toNanos_times]
  cases h : d.timesInWords? factor with
  | some product =>
    have exact := (words product).mp h
    rw [Option.getD_some, ← exact, Nat.min_eq_left product.toNanos_le_longest]
  | none =>
    have large : ¬ d.toNanos * factor.toNat ≤ longest.toNanos := fun fits => by
      obtain ⟨product, exact⟩ := exists_of_le_longest fits
      rw [(words product).mpr exact] at h
      cases h
    rw [Option.getD_none, Nat.min_eq_right (Nat.le_of_not_le large)]

end Duration

namespace RetryPolicy

variable (p : RetryPolicy) (attempt : UInt32)

/-- The factor is a power of two as long as that is a number of 32 bits. -/
theorem toNat_factor : (factor attempt).toNat = min (2 ^ attempt.toNat) (2 ^ 32 - 1) := by
  unfold factor
  split
  case isTrue h =>
    have few : attempt.toNat < 32 := h
    have power : 2 ^ attempt.toNat < 2 ^ 32 := Nat.pow_lt_pow_right (by decide) few
    have shifted : ((1 : UInt32) <<< attempt).toNat = 2 ^ attempt.toNat := by
      rw [UInt32.toNat_shiftLeft, Nat.mod_eq_of_lt few, UInt32.toNat_one, Nat.one_shiftLeft, Nat.mod_eq_of_lt power]
    omega
  case isFalse h =>
    have many : 32 ≤ attempt.toNat := Nat.le_of_not_lt h
    have power : 2 ^ 32 ≤ 2 ^ attempt.toNat := Nat.pow_le_pow_right (by decide) many
    rw [Nat.min_eq_right (by omega)]
    rfl

theorem toNanos_delayFor :
    (p.delayFor attempt).toNanos =
      min (p.baseDelay.toNanos * min (2 ^ attempt.toNat) (2 ^ 32 - 1)) Duration.longest.toNanos := by
  rw [delayFor, Duration.toNanos_times, toNat_factor]

variable {p} {q : RetryPolicy} {attempt} {later : UInt32}

/-- A longer base never makes a shorter wait, and neither does a later try. -/
theorem toNanos_delayFor_mono (base : p.baseDelay.toNanos ≤ q.baseDelay.toNanos) (h : attempt ≤ later) :
    (p.delayFor attempt).toNanos ≤ (q.delayFor later).toNanos := by
  have power : 2 ^ attempt.toNat ≤ 2 ^ later.toNat :=
    Nat.pow_le_pow_right (by decide) (UInt32.le_iff_toNat_le.mp h)
  have factors : min (2 ^ attempt.toNat) (2 ^ 32 - 1) ≤ min (2 ^ later.toNat) (2 ^ 32 - 1) := by omega
  have products := Nat.mul_le_mul base factors
  rw [toNanos_delayFor, toNanos_delayFor]
  omega

theorem toNanos_delayFor_succ (h : attempt < 31) :
    (p.delayFor (attempt + 1)).toNanos = min (2 * (p.delayFor attempt).toNanos) Duration.longest.toNanos := by
  have few : attempt.toNat < 31 := h
  have next : (attempt + 1).toNat = attempt.toNat + 1 := by
    rw [UInt32.toNat_add, UInt32.toNat_one]
    omega
  have power : 2 ^ (attempt.toNat + 1) ≤ 2 ^ 31 := Nat.pow_le_pow_right (by decide) few
  have doubled : min (2 ^ (attempt.toNat + 1)) (2 ^ 32 - 1) = 2 * min (2 ^ attempt.toNat) (2 ^ 32 - 1) := by omega
  rw [toNanos_delayFor, toNanos_delayFor, next, doubled, Nat.mul_left_comm]
  omega

/-- The wait after a try, counted from 0, is in nanoseconds exactly the base times 2^n, or times 2^32 - 1 where that is
    less, and never more than the longest duration. The steps in words that lead to it never leave their 64 bits
    unseen. So a later try and a longer base never make a shorter wait, and up to try 31 each wait is twice the one
    before, until it is the longest one. -/
theorem delayFor_exact (p : RetryPolicy) (attempt : UInt32) :
    (p.delayFor attempt).toNanos =
      min (p.baseDelay.toNanos * min (2 ^ attempt.toNat) (2 ^ 32 - 1)) Duration.longest.toNanos ∧
    (p.baseDelay.nanos * (factor attempt).toNat < UInt64.size ∧
      (p.baseDelay.timesInWords? (factor attempt)).getD Duration.longest = p.delayFor attempt) ∧
    (∀ later, attempt ≤ later → (p.delayFor attempt).toNanos ≤ (p.delayFor later).toNanos) ∧
    (∀ q : RetryPolicy, p.baseDelay.toNanos ≤ q.baseDelay.toNanos →
      (p.delayFor attempt).toNanos ≤ (q.delayFor attempt).toNanos) ∧
    (attempt < 31 →
      (p.delayFor (attempt + 1)).toNanos = min (2 * (p.delayFor attempt).toNanos) Duration.longest.toNanos) :=
  ⟨p.toNanos_delayFor attempt, ⟨Duration.nanos_mul_lt _ _, Duration.timesInWords?_getD _ _⟩,
    fun _ h => toNanos_delayFor_mono (Nat.le_refl _) h, fun _ h => toNanos_delayFor_mono h (UInt32.le_refl _),
    toNanos_delayFor_succ⟩

/-- The last power of two still fits, with half a second carried over, and the wait behind it is the longest one. -/
example : let p : RetryPolicy := ⟨33, { secs := 8589934591, nanos := 500000000 }⟩
    p.delayFor 31 = { secs := 18446744072635809792, nanos := 0 } ∧ p.delayFor 32 = Duration.longest := by decide

end RetryPolicy

end MarkerScan
