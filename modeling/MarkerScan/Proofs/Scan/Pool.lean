import Mathlib.Data.List.Basic
import Mathlib.Logic.Relation
import MarkerScan.Scan.Pool
/-
  MarkerScan.Proofs.Scan.Pool — what a pool of workers ends with.

  A task stands where it goes on from, or is done with its result. A property of where the
  task at each place stands, and of the shared state, is kept when taking tasks and the
  moves on the task itself and on the others keep it (`Keeps`).

  Proved, over every state that working on the tasks can lead to:
  - `kept_of_done`: when the work is done there is one result for each task, in the order of
    the list, and it has the property, however many workers there are and in whatever order
    they make their moves.
  - `tally_reach`: what the shared state tells of the results by their number and sums, it
    tells whichever of them came first.
  - `exists_done`: with at least one worker the work can always be brought to its end, when
    no task goes on forever.
  - `no_endless_run`: and then it comes to its end whatever is done.
-/

namespace MarkerScan.Pool

open Relation (ReflTransGen)

variable {τ ρ σ : Type} {w : Work τ ρ σ} {G : σ → Prop} {J : Nat → τ ⊕ ρ → σ → Prop} {limit : Nat} {tasks : List τ}

/-- All moves keep `G` of the shared state and `J` of every place. -/
structure Keeps (w : Work τ ρ σ) (G : σ → Prop) (J : Nat → τ ⊕ ρ → σ → Prop) : Prop where
  enter {s : σ} : G s → G (w.enter s)
  entered {i : Nat} {x : τ ⊕ ρ} {s : σ} : J i x s → J i x (w.enter s)
  move {i : Nat} {t : τ} {s : σ} : G s → J i (.inl t) s → G (w.move t s).2 ∧ J i (w.move t s).1 (w.move t s).2
  beside {i j : Nat} {t : τ} {x : τ ⊕ ρ} {s : σ} : G s → J i (.inl t) s → j ≠ i → J j x s → J j x (w.move t s).2

/-! ## Every place has a task that is left or a result -/

/-- The tasks left are those of the places without a result, and `J` holds of all places. -/
structure Stands (J : Nat → τ ⊕ ρ → σ → Prop) (left : List (τ × Nat)) (slots : List (Option ρ)) (s : σ) : Prop where
  once : (left.map (·.2)).Nodup
  opens : ∀ i, slots[i]? = some none ↔ i ∈ left.map (·.2)
  left : ∀ x ∈ left, J x.2 (.inl x.1) s
  done : ∀ i r, slots[i]? = some (some r) → J i (.inr r) s

section
variable {left left' : List (τ × Nat)} {slots : List (Option ρ)} {t t' : τ} {i : Nat} {r : ρ} {s s' : σ}

theorem stands_perm (hp : left.Perm left') (h : Stands J left slots s) : Stands J left' slots s where
  once := (hp.map _).nodup_iff.mp h.once
  opens i := (h.opens i).trans (hp.map _).mem_iff
  left x hx := h.left x (hp.mem_iff.mpr hx)
  done := h.done

theorem stands_enter (hk : Keeps w G J) (h : Stands J left slots s) : Stands J left slots (w.enter s) where
  once := h.once
  opens := h.opens
  left x hx := hk.entered (h.left x hx)
  done i r hr := hk.entered (h.done i r hr)

theorem ne_of_once (h : Stands J ((t, i) :: left) slots s) {x : τ × Nat} (hx : x ∈ left) : x.2 ≠ i := fun hxi =>
  (List.nodup_cons.mp h.once).1 (List.mem_map.mpr ⟨x, hx, hxi⟩)

theorem ne_of_done (h : Stands J ((t, i) :: left) slots s) {j : Nat} (hj : slots[j]? = some (some r)) : j ≠ i := by
  rintro rfl
  rw [(h.opens j).mpr (List.mem_cons_self ..)] at hj
  cases hj

theorem stands_go (hk : Keeps w G J) (hG : G s) (hm : w.move t s = (.inl t', s'))
    (h : Stands J ((t, i) :: left) slots s) : Stands J ((t', i) :: left) slots s' := by
  have hi : J i (.inl t) s := h.left _ (List.mem_cons_self ..)
  have own := (hk.move hG hi).2
  have beside := fun j x => @Keeps.beside _ _ _ _ _ _ hk i j t x s hG hi
  simp only [hm] at own beside
  refine ⟨h.once, h.opens, ?_, fun j r hr => beside j _ (ne_of_done h hr) (h.done j r hr)⟩
  rintro x hx
  rcases List.mem_cons.mp hx with rfl | hx
  · exact own
  · exact beside _ _ (ne_of_once h hx) (h.left x (List.mem_cons_of_mem _ hx))

theorem stands_finish (hk : Keeps w G J) (hG : G s) (hm : w.move t s = (.inr r, s'))
    (h : Stands J ((t, i) :: left) slots s) : Stands J left (slots.set i (some r)) s' := by
  have hi : J i (.inl t) s := h.left _ (List.mem_cons_self ..)
  have own := (hk.move hG hi).2
  have beside := fun j x => @Keeps.beside _ _ _ _ _ _ hk i j t x s hG hi
  simp only [hm] at own beside
  have slot : slots[i]? = some none := (h.opens i).mpr (List.mem_cons_self ..)
  have inside : i < slots.length := (List.getElem?_eq_some_iff.mp slot).1
  refine ⟨(List.nodup_cons.mp h.once).2, fun j => ?_, fun x hx => ?_, fun j r' hr => ?_⟩
  · by_cases hj : i = j
    · subst hj
      have : i ∉ left.map (·.2) := (List.nodup_cons.mp h.once).1
      simp [inside, this]
    · rw [List.getElem?_set_ne hj, h.opens j, List.map_cons, List.mem_cons, or_iff_right (Ne.symm hj)]
  · exact beside _ _ (ne_of_once h hx) (h.left x (List.mem_cons_of_mem _ hx))
  · by_cases hj : i = j
    · subst hj
      obtain rfl : r = r' := by simpa [inside] using hr
      exact own
    · rw [List.getElem?_set_ne hj] at hr
      exact beside _ _ (Ne.symm hj) (h.done j r' hr)

end

theorem stands_start {s : σ} (hJ : ∀ i t, tasks[i]? = some t → J i (.inl t) s) :
    Stands J tasks.zipIdx (tasks.map fun _ => (none : Option ρ)) s where
  once := by
    rw [List.zipIdx_map_snd]
    exact List.nodup_range'
  opens i := by
    rw [List.zipIdx_map_snd]
    simp [List.mem_range', List.getElem?_replicate]
  left x hx := hJ x.2 x.1 (List.mem_zipIdx_iff_getElem?.mp hx)
  done i r hr := by simp [List.getElem?_replicate] at hr

/-- What holds of a pool for all of its places. -/
def Inv (G : σ → Prop) (J : Nat → τ ⊕ ρ → σ → Prop) (n : Nat) (p : Pool τ ρ σ) : Prop :=
  p.slots.length = n ∧ G p.shared ∧ Stands J (p.waiting ++ p.busy) p.slots p.shared

theorem inv_step (hk : Keeps w G J) {n : Nat} {p q : Pool τ ρ σ} (h : Step w limit p q) (hi : Inv G J n p) :
    Inv G J n q := by
  obtain ⟨hsize, hG, hs⟩ := hi
  cases h with
  | @take before after busy task slots s free =>
    have same : (before ++ task :: after ++ busy).Perm (before ++ after ++ task :: busy) := by
      rw [List.append_assoc, List.append_assoc, List.cons_append]
      exact (List.perm_middle.append_left before).symm
    exact ⟨hsize, hk.enter hG, stands_enter hk (stands_perm same hs)⟩
  | @go before after waiting t t' i slots s s' hm =>
    have front : ∀ u : τ, (waiting ++ (before ++ (u, i) :: after)).Perm ((u, i) :: (waiting ++ (before ++ after))) :=
      fun u => (List.perm_middle.append_left waiting).trans List.perm_middle
    have hs := stands_perm (front t) hs
    have moved := (hk.move hG (hs.left _ (List.mem_cons_self ..))).1
    rw [hm] at moved
    exact ⟨hsize, moved, stands_perm (front t').symm (stands_go hk hG hm hs)⟩
  | @finish before after waiting t i r slots s s' hm =>
    have hs := stands_perm ((List.perm_middle.append_left waiting).trans List.perm_middle) hs
    have moved := (hk.move hG (hs.left _ (List.mem_cons_self ..))).1
    rw [hm] at moved
    exact ⟨by rw [List.length_set, hsize], moved, stands_finish hk hG hm hs⟩

theorem inv_reach (hk : Keeps w G J) {s : σ} (hG : G s) (hJ : ∀ i t, tasks[i]? = some t → J i (.inl t) s)
    {p : Pool τ ρ σ} (h : Reach w limit tasks s p) : Inv G J tasks.length p := by
  induction h with
  | start => exact ⟨by simp [start], hG, by simpa [start] using stands_start hJ⟩
  | step _ hs ih => exact inv_step hk hs ih

/-- There is a result for each task, and it has the property. -/
theorem kept_of_done (hk : Keeps w G J) {s : σ} (hG : G s) (hJ : ∀ i t, tasks[i]? = some t → J i (.inl t) s)
    {p : Pool τ ρ σ} (h : Reach w limit tasks s p) (hd : p.Done) :
    G p.shared ∧ p.results.length = tasks.length ∧ ∀ i r, p.results[i]? = some r → J i (.inr r) p.shared := by
  obtain ⟨hsize, hG, hs⟩ := inv_reach hk hG hJ h
  rw [hd.1, hd.2, List.append_nil] at hs
  have filled : ∀ o ∈ p.slots, o ≠ none := by
    rintro o ho rfl
    obtain ⟨i, hi⟩ := List.mem_iff_getElem?.mp ho
    exact List.not_mem_nil ((hs.opens i).mp hi)
  have slots : p.slots = p.results.map some := by
    rw [results, List.map_filterMap]
    refine List.filterMap_some.symm.trans (List.filterMap_congr fun o ho => ?_)
    obtain ⟨r, rfl⟩ := Option.ne_none_iff_exists'.mp (filled o ho)
    rfl
  refine ⟨hG, by rw [← hsize, slots, List.length_map], fun i r hr => hs.done i r ?_⟩
  rw [slots, List.getElem?_map, hr]
  rfl

/-! ## What the shared state tells of the results -/

/-- `T` tells of the shared state how many workers are busy and which results there are, in any order; all moves keep
    it true. -/
structure Tallies (w : Work τ ρ σ) (T : Nat → List ρ → σ → Prop) : Prop where
  enter {n : Nat} {rs : List ρ} {s : σ} : T n rs s → T (n + 1) rs (w.enter s)
  go {n : Nat} {rs : List ρ} {t t' : τ} {s s' : σ} :
    w.move t s = (.inl t', s') → T (n + 1) rs s → T (n + 1) rs s'
  finish {n : Nat} {rs : List ρ} {t : τ} {r : ρ} {s s' : σ} :
    w.move t s = (.inr r, s') → T (n + 1) rs s → T n (r :: rs) s'
  perm {n : Nat} {rs rs' : List ρ} {s : σ} : rs.Perm rs' → T n rs s → T n rs' s

/-- A result that is put in a slot without one is one result more. -/
theorem results_set {slots : List (Option ρ)} {i : Nat} (h : slots[i]? = some none) (r : ρ) :
    (r :: slots.filterMap id).Perm ((slots.set i (some r)).filterMap id) := by
  obtain ⟨hi, hslot⟩ := List.getElem?_eq_some_iff.mp h
  have before : slots.filterMap id = (slots.take i).filterMap id ++ (slots.drop (i + 1)).filterMap id := by
    have parts : slots = slots.take i ++ none :: slots.drop (i + 1) := by
      rw [← hslot, List.getElem_cons_drop, List.take_append_drop]
    conv_lhs => rw [parts, List.filterMap_append, List.filterMap_cons_none rfl]
  have after : (slots.set i (some r)).filterMap id =
      (slots.take i).filterMap id ++ r :: (slots.drop (i + 1)).filterMap id := by
    rw [List.set_eq_take_append_cons_drop, if_pos hi, List.filterMap_append]
    rfl
  rw [before, after]
  exact List.perm_middle.symm

theorem tally_reach {T : Nat → List ρ → σ → Prop} (ht : Tallies w T) {s : σ} (h₀ : T 0 [] s) {p : Pool τ ρ σ}
    (h : Reach w limit tasks s p) : T p.busy.length p.results p.shared := by
  have trivially : Keeps w (fun _ => True) fun _ _ _ => True := ⟨id, id, fun _ _ => ⟨trivial, trivial⟩, fun _ _ _ _ => trivial⟩
  induction h with
  | start =>
    have none : (start tasks s : Pool τ ρ σ).results = [] := by simp [start, results]
    rw [none]
    exact h₀
  | step hp hs ih =>
    cases hs with
    | take before after free => exact ht.enter ih
    | go before after hm =>
      simp only [List.length_append, List.length_cons, ← Nat.add_assoc] at ih ⊢
      exact ht.go hm ih
    | @finish before after waiting t i r slots s s' hm =>
      simp only [List.length_append, List.length_cons, ← Nat.add_assoc] at ih ⊢
      have slot : slots[i]? = some none :=
        ((inv_reach trivially trivial (fun _ _ _ => trivial) hp).2.2.opens i).mpr (by simp)
      exact ht.perm (results_set slot r) (ht.finish hm ih)

/-! ## The work comes to an end -/

/-- `cost` bounds how many moves a task still takes. -/
def Shrinks (w : Work τ ρ σ) (cost : τ → Nat) : Prop :=
  (∀ t s t' s', w.move t s = (.inl t', s') → cost t' < cost t) ∧ ∀ t s r s', w.move t s = (.inr r, s') → 0 < cost t

/-- What these tasks cost together. -/
def totalCost (cost : τ → Nat) : List (τ × Nat) → Nat
  | [] => 0
  | x :: rest => cost x.1 + totalCost cost rest

theorem totalCost_append (cost : τ → Nat) (a b : List (τ × Nat)) :
    totalCost cost (a ++ b) = totalCost cost a + totalCost cost b := by
  induction a with
  | nil => simp [totalCost]
  | cons x a ih => rw [List.cons_append, totalCost, totalCost, ih, Nat.add_assoc]

/-- How many steps there can still be: each task is moved on as often as it costs, and is taken before. -/
def stepsLeft (cost : τ → Nat) (p : Pool τ ρ σ) : Nat :=
  p.waiting.length + totalCost cost p.waiting + totalCost cost p.busy

variable {cost : τ → Nat}

theorem stepsLeft_lt_of_step (hc : Shrinks w cost) {p q : Pool τ ρ σ} (h : Step w limit p q) :
    q.stepsLeft cost < p.stepsLeft cost := by
  cases h with
  | take before after free =>
    simp only [stepsLeft, totalCost_append, totalCost, List.length_append, List.length_cons]
    omega
  | go before after hm =>
    have := hc.1 _ _ _ _ hm
    simp only [stepsLeft, totalCost_append, totalCost]
    omega
  | finish before after hm =>
    have := hc.2 _ _ _ _ hm
    simp only [stepsLeft, totalCost_append, totalCost]
    omega

theorem no_endless_run (hc : Shrinks w cost) : ¬ ∃ run : Nat → Pool τ ρ σ, ∀ n, Step w limit (run n) (run (n + 1)) := by
  rintro ⟨run, hrun⟩
  have spent : ∀ n, (run n).stepsLeft cost + n ≤ (run 0).stepsLeft cost := by
    intro n
    induction n with
    | zero => exact Nat.le_refl _
    | succ n ih =>
      have := stepsLeft_lt_of_step hc (hrun n)
      omega
  have := spent ((run 0).stepsLeft cost + 1)
  omega

/-! ## The work can be finished -/

theorem reach_of_steps {s : σ} {p q : Pool τ ρ σ} (h : Reach w limit tasks s p)
    (hs : ReflTransGen (Step w limit) p q) : Reach w limit tasks s q := by
  induction hs with
  | refl => exact h
  | tail _ hs ih => exact ih.step hs

/-- A busy worker can always make a move, and if none is busy a task can be taken. -/
theorem exists_step (hl : 0 < limit) (w : Work τ ρ σ) {p : Pool τ ρ σ} (h : ¬ p.Done) : ∃ q, Step w limit p q := by
  obtain ⟨waiting, busy, slots, s⟩ := p
  cases busy with
  | cons x busy =>
    cases hm : w.move x.1 s with
    | mk m s' =>
      cases m with
      | inl t' => exact ⟨_, Step.go [] busy hm⟩
      | inr r => exact ⟨_, Step.finish [] busy hm⟩
  | nil =>
    cases waiting with
    | nil => exact absurd ⟨rfl, rfl⟩ h
    | cons x waiting => exact ⟨_, Step.take [] waiting hl⟩

/-- No state is stuck. -/
theorem exists_done (hc : Shrinks w cost) (hl : 0 < limit) (p : Pool τ ρ σ) :
    ∃ q, ReflTransGen (Step w limit) p q ∧ q.Done := by
  by_cases hd : p.Done
  · exact ⟨p, .refl, hd⟩
  · obtain ⟨m, hm⟩ := exists_step hl w hd
    have := stepsLeft_lt_of_step hc hm
    obtain ⟨q, hq, hd⟩ := exists_done hc hl m
    exact ⟨q, .head hm hq, hd⟩
termination_by p.stepsLeft cost

end MarkerScan.Pool
