/-
  MarkerScan.Scan.Pool — workers that share a list of tasks.

  A free worker takes any task that nobody has taken, while fewer than `limit` workers are
  busy. A busy worker makes one move on its task at a time: the task goes on, or gives its
  result, which is put in the slot of the task, and the worker is free. Workers make their
  moves in any order. Each move may read and write a state that all of them share.

  A run is done when no task waits and no worker is busy.
-/

namespace MarkerScan

/-- What is done on tasks `τ` that give results `ρ`, with a shared state `σ`. -/
structure Pool.Work (τ ρ σ : Type) where
  /-- What taking a task does. -/
  enter : σ → σ
  /-- One move on a task: how it goes on, or its result. -/
  move : τ → σ → (τ ⊕ ρ) × σ

/-- Where the tasks stand, each with its place in the list. -/
structure Pool (τ ρ σ : Type) where
  waiting : List (τ × Nat)
  busy : List (τ × Nat)
  /-- The result of each task that is done. -/
  slots : List (Option ρ)
  shared : σ

namespace Pool

variable {τ ρ σ : Type}

def start (tasks : List τ) (s : σ) : Pool τ ρ σ := ⟨tasks.zipIdx, [], tasks.map fun _ => none, s⟩

inductive Step (w : Work τ ρ σ) (limit : Nat) : Pool τ ρ σ → Pool τ ρ σ → Prop
  | take (before after : List (τ × Nat)) {busy : List (τ × Nat)} {task : τ × Nat} {slots : List (Option ρ)} {s : σ} :
      busy.length < limit →
      Step w limit ⟨before ++ task :: after, busy, slots, s⟩ ⟨before ++ after, task :: busy, slots, w.enter s⟩
  | go (before after : List (τ × Nat)) {waiting : List (τ × Nat)} {t t' : τ} {i : Nat} {slots : List (Option ρ)}
      {s s' : σ} :
      w.move t s = (.inl t', s') →
      Step w limit ⟨waiting, before ++ (t, i) :: after, slots, s⟩ ⟨waiting, before ++ (t', i) :: after, slots, s'⟩
  | finish (before after : List (τ × Nat)) {waiting : List (τ × Nat)} {t : τ} {i : Nat} {r : ρ}
      {slots : List (Option ρ)} {s s' : σ} :
      w.move t s = (.inr r, s') →
      Step w limit ⟨waiting, before ++ (t, i) :: after, slots, s⟩ ⟨waiting, before ++ after, slots.set i (some r), s'⟩

/-- The states that working on the tasks can lead to. -/
inductive Reach (w : Work τ ρ σ) (limit : Nat) (tasks : List τ) (s : σ) : Pool τ ρ σ → Prop
  | start : Reach w limit tasks s (start tasks s)
  | step {p q : Pool τ ρ σ} : Reach w limit tasks s p → Step w limit p q → Reach w limit tasks s q

def Done (p : Pool τ ρ σ) : Prop := p.waiting = [] ∧ p.busy = []

/-- The results there are, in the order of the tasks. -/
def results (p : Pool τ ρ σ) : List ρ := p.slots.filterMap id

end Pool

end MarkerScan
