import MarkerScan.Proofs.Delivery.Retry
/-
  MarkerScan.Proofs.Delivery.Turns — the loop that tries an operation again.

  One turn of the loop (`turn`) is one try. The tries before it are counted in 32 bits, and
  the turn goes on to the next one, behind a wait, or leaves the loop. What is seen from
  outside is the tries and the waits in their order (`Event`).

  Proved, for every policy and every operation:
  - `turn_standing`: a turn behind `n` tries that each led to another finds the counter at
    `n`, and what it does is what the policy says of try `n`.
  - `standing_of_turns`: so the loop only gets to such places, by induction on its turns.
  - `run_outcome`: how many tries a run makes, what it returns, and that the loop does just
    this: it is left after that many turns, with a wait between any two of them, and its
    counter never leaves the 32 bits.
-/

namespace MarkerScan.RetryPolicy

variable {σ α : Type} {p : RetryPolicy} {op : σ → Except DeliveryError α × σ} {s : σ} {n : Nat}
  {script : Nat → Except DeliveryError α}

/-! ## Turns -/

inductive Event (α : Type) where
  | tried (result : Except DeliveryError α)
  | waited (time : Duration)

/-- The loop in front of a try. -/
structure Loop (σ α : Type) where
  /-- The number of the try, counted from 0. -/
  attempt : UInt32 := 0
  state : σ
  events : List (Event α) := []

/-- What the loop is left with. -/
structure Left (σ α : Type) where
  result : Except DeliveryError α
  attempts : UInt32
  state : σ
  events : List (Event α)

/-- The most tries; one is always allowed. -/
def cap (p : RetryPolicy) : UInt32 := if p.maxAttempts = 0 then 1 else p.maxAttempts

def turn (p : RetryPolicy) (op : σ → Except DeliveryError α × σ) (l : Loop σ α) : Loop σ α ⊕ Left σ α :=
  match op l.state with
  | (.ok a, s) => .inr ⟨.ok a, l.attempt + 1, s, l.events ++ [.tried (.ok a)]⟩
  | (.error e, s) =>
    if e.isTransient && decide (l.attempt + 1 < p.cap) then
      .inl ⟨l.attempt + 1, s, l.events ++ [.tried (.error e), .waited (p.delayFor l.attempt)]⟩
    else .inr ⟨.error e, l.attempt + 1, s, l.events ++ [.tried (.error e)]⟩

/-- Where the loop may be after so many turns. -/
inductive Turns (p : RetryPolicy) (op : σ → Except DeliveryError α × σ) (s : σ) : Nat → Loop σ α → Prop
  | start : Turns p op s 0 { state := s }
  | again {n : Nat} {l l' : Loop σ α} : Turns p op s n l → p.turn op l = .inl l' → Turns p op s (n + 1) l'

/-! ## The counter -/

theorem toNat_cap (p : RetryPolicy) : p.cap.toNat = p.allowed := by
  unfold cap allowed
  split
  case isTrue h => simp [h]
  case isFalse h =>
    have : p.maxAttempts.toNat ≠ 0 := fun h0 => h (UInt32.toNat_inj.mp h0)
    omega

theorem allowed_lt (p : RetryPolicy) : p.allowed < UInt32.size := by
  rw [← toNat_cap]
  exact UInt32.toNat_lt_size _

theorem toNat_attempt (hn : n ≤ p.allowed) : (UInt32.ofNat n).toNat = n :=
  UInt32.toNat_ofNat_of_lt (Nat.lt_of_le_of_lt hn p.allowed_lt)

theorem attempt_succ (n : Nat) : UInt32.ofNat n + 1 = UInt32.ofNat (n + 1) := (UInt32.ofNat_add n 1).symm

/-- The test of the loop never sees a counter that went round. -/
theorem attempt_lt_cap_iff (hn : n < p.allowed) : UInt32.ofNat n + 1 < p.cap ↔ n + 1 < p.allowed := by
  rw [attempt_succ, UInt32.lt_iff_toNat_lt, toNat_cap, toNat_attempt hn]

/-! ## Where the loop may be -/

/-- The tries before a try, each with the wait behind it. -/
def trace (p : RetryPolicy) (script : Nat → Except DeliveryError α) : Nat → List (Event α)
  | 0 => []
  | n + 1 => trace p script n ++ [.tried (script n), .waited (p.delayFor (UInt32.ofNat n))]

/-- The loop in front of try `n`. -/
def standing (p : RetryPolicy) (op : σ → Except DeliveryError α × σ) (s : σ) (n : Nat) : Loop σ α :=
  ⟨UInt32.ofNat n, after op s n, p.trace (outcome op s) n⟩

/-- What the loop is left with behind try `n`. -/
def leaving (p : RetryPolicy) (op : σ → Except DeliveryError α × σ) (s : σ) (n : Nat) : Left σ α :=
  ⟨outcome op s n, UInt32.ofNat (n + 1), after op s (n + 1), p.trace (outcome op s) n ++ [.tried (outcome op s n)]⟩

theorem turn_standing (hn : n < p.allowed) :
    p.turn op (p.standing op s n) =
      if p.goesOn (n + 1) (outcome op s n) then .inl (p.standing op s (n + 1)) else .inr (p.leaving op s n) := by
  have hop : op (p.standing op s n).state = (outcome op s n, after op s (n + 1)) := rfl
  have next := attempt_succ n
  have more : (p.standing op s n).attempt + 1 < p.cap ↔ n + 1 < p.allowed := attempt_lt_cap_iff hn
  unfold turn
  rw [hop]
  cases hr : outcome op s n with
  | ok a =>
    rw [if_neg (by simp [goesOn])]
    simp only [leaving, standing, hr, next]
  | error e =>
    have again : (e.isTransient && decide ((p.standing op s n).attempt + 1 < p.cap)) =
        p.goesOn (n + 1) (.error e : Except _ α) := by
      rw [decide_eq_decide.mpr more, goesOn]
    simp only [again]
    cases p.goesOn (n + 1) (.error e : Except _ α) with
    | true => simp only [standing, trace, hr, next, if_true]
    | false => simp only [leaving, standing, hr, next, Bool.false_eq_true, if_false]

/-- By induction on the turns: each one that does not leave the loop leads to the next place. -/
theorem standing_of_turns {l : Loop σ α} (h : Turns p op s n l) :
    l = p.standing op s n ∧ n < p.allowed ∧ ∀ m, m < n → ∃ reason, outcome op s m = .error (.transient reason) := by
  induction h with
  | start => exact ⟨rfl, p.allowed_pos, fun m hm => absurd hm (Nat.not_lt_zero m)⟩
  | @again n l l' _ hturn ih =>
    obtain ⟨rfl, hn, before⟩ := ih
    rw [turn_standing hn] at hturn
    split at hturn
    case isFalse => cases hturn
    case isTrue more =>
      obtain ⟨passing, hlt⟩ := goesOn_iff.mp more
      refine ⟨(Sum.inl.inj hturn).symm, hlt, fun m hm => ?_⟩
      rcases Nat.lt_succ_iff_lt_or_eq.mp hm with hm | rfl
      · exact before m hm
      · exact passing

theorem turns_standing {tries : Nat} (h : p.Tried (outcome op s) tries) (hn : n < tries) :
    Turns p op s n (p.standing op s n) := by
  induction n with
  | zero => exact .start
  | succ n ih =>
    refine .again (ih (Nat.lt_of_succ_lt hn)) ?_
    have hlt : n + 1 < p.allowed := Nat.lt_of_lt_of_le hn h.le
    rw [turn_standing (Nat.lt_of_succ_lt hlt), if_pos (goesOn_iff.mpr ⟨h.before n hn, hlt⟩)]

/-- The turn of the last try leaves the loop. -/
theorem turn_last {tries : Nat} (h : p.Tried (outcome op s) (tries + 1)) :
    p.turn op (p.standing op s tries) = .inr (p.leaving op s tries) := by
  rw [turn_standing h.le, if_neg]
  intro more
  obtain ⟨⟨reason, hr⟩, hlt⟩ := goesOn_iff.mp more
  have := h.last reason hr
  omega

/-! ## How many tries there are -/

/-- The first outcome that is not a failure that may pass. -/
structure FirstFinal (script : Nat → Except DeliveryError α) (k : Nat) : Prop where
  before : ∀ n, n < k → ∃ reason, script n = .error (.transient reason)
  final : ∀ reason, script k ≠ .error (.transient reason)

theorem Tried.eq_min {tries k : Nat} (h : p.Tried script tries) (hk : FirstFinal script k) :
    tries = min (k + 1) p.allowed := by
  have hle := h.le
  have hpos := h.pos
  have notBehind : tries ≤ k + 1 := by
    refine Nat.le_of_not_lt fun behind => ?_
    obtain ⟨reason, hr⟩ := h.before k (by omega)
    exact hk.final reason hr
  by_cases hlast : tries = k + 1
  · omega
  · obtain ⟨reason, hr⟩ := hk.before (tries - 1) (by omega)
    have := h.last reason hr
    omega

/-- Outcomes of which none is the first one to end the tries all ask for another. -/
theorem transient_of_no_final (h : ∀ k, ¬ FirstFinal script k) (n : Nat) :
    ∃ reason, script n = .error (.transient reason) := by
  induction n using Nat.strongRecOn with
  | ind n ih => exact Classical.byContradiction fun none => h n ⟨ih, fun reason hr => none ⟨reason, hr⟩⟩

theorem Tried.eq_allowed {tries : Nat} (h : p.Tried script tries) (hk : ∀ k, ¬ FirstFinal script k) :
    tries = p.allowed := by
  obtain ⟨reason, hr⟩ := transient_of_no_final hk (tries - 1)
  exact h.last reason hr

/-- The loop is left behind the turn of the last try. -/
theorem exists_left {tries : Nat} (h : p.Tried (outcome op s) tries) :
    ∃ l left, Turns p op s (tries - 1) l ∧ p.turn op l = .inr left ∧
      left.result = outcome op s (tries - 1) ∧ left.attempts.toNat = tries ∧ left.state = after op s tries ∧
      left.events = p.trace (outcome op s) (tries - 1) ++ [.tried (outcome op s (tries - 1))] := by
  cases tries with
  | zero => exact absurd h.pos (Nat.lt_irrefl 0)
  | succ last =>
    exact ⟨_, _, turns_standing h (Nat.lt_succ_self last), turn_last h, rfl, toNat_attempt h.le, rfl, rfl⟩

/-- It has no turns but those, and no turn finds a counter that could not be raised. -/
theorem turns_bounded {tries : Nat} (h : p.Tried (outcome op s) tries) {l : Loop σ α} (hl : Turns p op s n l) :
    n < tries ∧ l.attempt.toNat = n ∧ l.attempt.toNat + 1 < UInt32.size := by
  obtain ⟨rfl, hn, before⟩ := standing_of_turns hl
  have counted : (p.standing op s n).attempt.toNat = n := toNat_attempt (Nat.le_of_lt hn)
  rw [counted]
  refine ⟨Nat.lt_of_not_le fun behind => ?_, rfl, Nat.lt_of_le_of_lt hn p.allowed_lt⟩
  have hpos := h.pos
  obtain ⟨reason, hr⟩ := before (tries - 1) (by omega)
  have := h.last reason hr
  omega

/-- A run makes all tries up to the first one that does not fail in a way that may pass, and as many as are allowed if
    there is none or it comes too late. It ends with what comes of the last one, and between two tries there is the
    wait for the one before. The loop with its counter of 32 bits does the same: it is left behind the turn of the last
    try, with these tries and waits in order, it has no further turns, and no turn finds a counter that could not be
    raised. -/
theorem run_outcome (p : RetryPolicy) (op : σ → Except DeliveryError α × σ) (s : σ) :
    let script := outcome op s
    let run := p.run op s
    ((∀ k, FirstFinal script k → run.attempts = min (k + 1) p.allowed) ∧
      ((∀ k, ¬ FirstFinal script k) → run.attempts = p.allowed)) ∧
    run.result = script (run.attempts - 1) ∧ run.state = after op s run.attempts ∧
    run.waits = (List.range (run.attempts - 1)).map (fun n => p.delayFor (UInt32.ofNat n)) ∧
    (∃ l left, Turns p op s (run.attempts - 1) l ∧ p.turn op l = .inr left ∧
      left.result = run.result ∧ left.attempts.toNat = run.attempts ∧ left.state = run.state ∧
      left.events = p.trace script (run.attempts - 1) ++ [.tried run.result]) ∧
    ∀ n l, Turns p op s n l → n < run.attempts ∧ l.attempt.toNat = n ∧ l.attempt.toNat + 1 < UInt32.size := by
  intro script run
  obtain ⟨tries, tried, hrun⟩ := p.run_eq op s
  have whole : run = _ := hrun
  rw [whole]
  refine ⟨⟨fun k => tried.eq_min, tried.eq_allowed⟩, rfl, rfl, ?_, exists_left tried, fun n l => turns_bounded tried⟩
  rw [List.range_eq_range']
  rfl

end MarkerScan.RetryPolicy
