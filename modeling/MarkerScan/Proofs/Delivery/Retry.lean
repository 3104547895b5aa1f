import MarkerScan.Delivery.Workers
/-
  MarkerScan.Proofs.Delivery.Retry — how an operation is tried again.

  `p.runFrom op n s` is what is left of a run after `n` tries. A try is the last one, and
  then the run has its result, or the run goes on as it would from the next try, behind the
  wait for this one (`runFrom_last`, `runFrom_next`). So a run makes the tries that the
  policy asks for (`Tried`), with a wait between any two of them, and it ends with the
  result and the state of the last one (`run_eq`, `tried_run`).
-/

namespace MarkerScan.RetryPolicy

variable {σ α : Type} {p : RetryPolicy} {op : σ → Except DeliveryError α × σ} {n : Nat} {s s' : σ}
  {result : Except DeliveryError α}

/-- The run of an operation that was tried `n` times before. -/
def runFrom (p : RetryPolicy) (op : σ → Except DeliveryError α × σ) (n : Nat) (s : σ) : Run σ α :=
  p.tryFrom op (p.allowed - 1 - n) n s

theorem allowed_pos (p : RetryPolicy) : 0 < p.allowed := by
  unfold allowed
  omega

theorem runFrom_last (hop : op s = (result, s')) (hn : n < p.allowed) (h : p.goesOn (n + 1) result = false) :
    p.runFrom op n s = ⟨result, n + 1, [], s'⟩ := by
  unfold runFrom tryFrom
  rw [hop]
  cases result with
  | ok a => rfl
  | error e =>
    cases ht : e.isTransient with
    | false => simp [ht]
    | true =>
      have : p.allowed - 1 - n = 0 := by
        simp [goesOn, ht] at h
        omega
      simp [ht, this]

theorem runFrom_next (hop : op s = (result, s')) (h : p.goesOn (n + 1) result = true) :
    p.runFrom op n s = { p.runFrom op (n + 1) s' with
      waits := p.delayFor (UInt32.ofNat n) :: (p.runFrom op (n + 1) s').waits } := by
  cases result with
  | ok a => cases h
  | error e =>
    obtain ⟨ht, hn⟩ : e.isTransient = true ∧ n + 1 < p.allowed := by simpa [goesOn] using h
    obtain ⟨spare, hs⟩ : ∃ spare, p.allowed - 1 - n = spare + 1 := ⟨p.allowed - 1 - (n + 1), by omega⟩
    have hs' : p.allowed - 1 - (n + 1) = spare := by omega
    unfold runFrom
    rw [hs, hs', tryFrom, hop]
    simp [ht]

theorem runFrom_again (hop : op s = (result, s')) (h : p.goesOn (n + 1) result = true) :
    ∃ waits, p.runFrom op n s = { p.runFrom op (n + 1) s' with waits := waits } :=
  ⟨_, runFrom_next hop h⟩

/-- The policy asks for so many tries: all but the last fail in a way that may pass, and so does the last one only
    if no other is allowed. -/
structure Tried (p : RetryPolicy) (script : Nat → Except DeliveryError α) (tries : Nat) : Prop where
  pos : 0 < tries
  le : tries ≤ p.allowed
  before : ∀ n, n + 1 < tries → ∃ reason, script n = .error (.transient reason)
  last : ∀ reason, script (tries - 1) = .error (.transient reason) → tries = p.allowed

theorem goesOn_iff : p.goesOn n result = true ↔ (∃ reason, result = .error (.transient reason)) ∧ n < p.allowed := by
  cases result with
  | ok a => simp [goesOn]
  | error e => cases e <;> simp [goesOn, DeliveryError.isTransient]

/-! ## The tries of a run -/

/-- The state after so many tries. -/
def after (op : σ → Except DeliveryError α × σ) (s : σ) : Nat → σ
  | 0 => s
  | n + 1 => (op (after op s n)).2

/-- What comes of a try. -/
def outcome (op : σ → Except DeliveryError α × σ) (s : σ) (n : Nat) : Except DeliveryError α := (op (after op s n)).1

/-- The waits behind the tries from `n` on, of so many tries in all. -/
def waitsFrom (p : RetryPolicy) (n tries : Nat) : List Duration :=
  (List.range' n (tries - 1 - n)).map fun i => p.delayFor (UInt32.ofNat i)

theorem waitsFrom_last : p.waitsFrom n (n + 1) = [] := by
  simp [waitsFrom]

theorem waitsFrom_again {tries : Nat} (h : n + 1 < tries) :
    p.waitsFrom n tries = p.delayFor (UInt32.ofNat n) :: p.waitsFrom (n + 1) tries := by
  have more : tries - 1 - n = (tries - 1 - (n + 1)) + 1 := by omega
  rw [waitsFrom, more, List.range'_succ, List.map_cons]
  rfl

/-- From any try on that those before it have led to; by induction on the tries that are still allowed. -/
theorem runFrom_eq {n : Nat} (hn : n < p.allowed)
    (before : ∀ m, m < n → ∃ reason, outcome op s m = .error (.transient reason)) :
    ∃ tries, n < tries ∧ p.Tried (outcome op s) tries ∧
      p.runFrom op n (after op s n) = ⟨outcome op s (tries - 1), tries, p.waitsFrom n tries, after op s tries⟩ := by
  have hop : op (after op s n) = (outcome op s n, after op s (n + 1)) := rfl
  cases h : p.goesOn (n + 1) (outcome op s n) with
  | false =>
    refine ⟨n + 1, Nat.lt_succ_self n, ⟨Nat.succ_pos n, hn, fun m hm => before m (Nat.lt_of_succ_lt_succ hm),
      fun reason hr => ?_⟩, ?_⟩
    · have hr : outcome op s n = .error (.transient reason) := hr
      have : ¬ n + 1 < p.allowed := fun hlt => by
        rw [goesOn_iff.mpr ⟨⟨reason, hr⟩, hlt⟩] at h
        cases h
      exact Nat.le_antisymm hn (Nat.le_of_not_lt this)
    · rw [runFrom_last hop hn h, waitsFrom_last]
      rfl
  | true =>
    obtain ⟨again, hlt⟩ := goesOn_iff.mp h
    have through : ∀ m, m < n + 1 → ∃ reason, outcome op s m = .error (.transient reason) := by
      intro m hm
      rcases Nat.lt_succ_iff_lt_or_eq.mp hm with hm | rfl
      · exact before m hm
      · exact again
    obtain ⟨tries, htries, tried, hrun⟩ := runFrom_eq hlt through
    refine ⟨tries, Nat.lt_of_succ_lt htries, tried, ?_⟩
    rw [runFrom_next hop h, hrun, waitsFrom_again htries]
termination_by p.allowed - n

/-- A run makes the tries that the policy asks for, with a wait between any two of them. -/
theorem run_eq (p : RetryPolicy) (op : σ → Except DeliveryError α × σ) (s : σ) :
    ∃ tries, p.Tried (outcome op s) tries ∧
      p.run op s = ⟨outcome op s (tries - 1), tries, p.waitsFrom 0 tries, after op s tries⟩ := by
  obtain ⟨tries, -, tried, hrun⟩ := @runFrom_eq σ α p op s 0 p.allowed_pos fun m hm =>
    absurd hm (Nat.not_lt_zero m)
  exact ⟨tries, tried, hrun⟩

/-- So it ends with what comes of the last one. -/
theorem tried_run (p : RetryPolicy) (op : σ → Except DeliveryError α × σ) (s : σ) :
    p.Tried (outcome op s) (p.run op s).attempts ∧ (p.run op s).result = outcome op s ((p.run op s).attempts - 1) ∧
      (p.run op s).state = after op s (p.run op s).attempts := by
  obtain ⟨tries, tried, hrun⟩ := p.run_eq op s
  rw [hrun]
  exact ⟨tried, rfl, rfl⟩

/-! ## Operations whose outcomes are given -/

/-- The operation with these outcomes at its tries, which counts them. -/
def attempt (script : Nat → Except DeliveryError α) (n : Nat) : Except DeliveryError α × Nat := (script n, n + 1)

/-- The run of the operation with these outcomes. -/
def runScript (p : RetryPolicy) (script : Nat → Except DeliveryError α) : Run Nat α := p.run (attempt script) 0

variable {script : Nat → Except DeliveryError α}

theorem outcome_attempt : outcome (attempt script) 0 = script := by
  have counted : ∀ n, after (attempt script) 0 n = n := by
    intro n
    induction n with
    | zero => rfl
    | succ n ih => rw [after, ih]; rfl
  funext n
  rw [outcome, counted]
  rfl

theorem tried_script (p : RetryPolicy) (script : Nat → Except DeliveryError α) :
    p.Tried script (p.runScript script).attempts ∧
      (p.runScript script).result = script ((p.runScript script).attempts - 1) := by
  obtain ⟨tried, hresult, -⟩ := p.tried_run (attempt script) 0
  rw [outcome_attempt] at tried hresult
  exact ⟨tried, hresult⟩

end MarkerScan.RetryPolicy
