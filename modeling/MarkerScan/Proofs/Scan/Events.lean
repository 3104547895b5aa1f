import Mathlib.Algebra.Ring.Nat
import Mathlib.Data.List.Induction
import MarkerScan.Scan.Sharing
/-
  MarkerScan.Proofs.Scan.Events — what counters tell of calls that were made one after another.

  A counter of files is moved by each event by a part that depends on the event alone, so it
  has the sum of the parts (`Sums.after`). Workers that come and go move none of them.
-/

namespace MarkerScan.Counters

/-- The counters after calls of which each was over before the next. -/
def after (es : List Event) : Watched := es.foldl Watched.step {}

theorem after_append (es : List Event) (e : Event) : after (es ++ [e]) = (after es).step e :=
  List.foldl_append

theorem foldl_add_addends_record (c : Counters) (size items : UInt64) :
    (Event.record size items).addends.foldl add c = c.record size items := by
  rw [Event.addends, List.foldl_append, record]
  split <;> rfl

/-- Recording a file adds its addends. -/
theorem step_of_addends {e : Event} (h : e.addends ≠ []) (w : Watched) :
    w.step e = { w with counters := e.addends.foldl add w.counters } := by
  cases e with
  | enter name => exact absurd rfl h
  | leave name => exact absurd rfl h
  | record size items => rw [foldl_add_addends_record]; rfl
  | fail => rfl

theorem foldl_add_peak (c : Counters) (xs : List Addend) : (xs.foldl add c).peak = c.peak := by
  induction xs generalizing c with
  | nil => rfl
  | cons x xs ih =>
    rw [List.foldl_cons, ih]
    cases x <;> rfl

/-! ## Files -/

theorem step_of_worker {e : Event} (h : e.addends = []) (w : Watched) :
    ∃ active peak, (w.step e).counters = { w.counters with active := active, peak := peak } := by
  cases e with
  | enter name => rw [Watched.step]; split <;> exact ⟨_, _, rfl⟩
  | leave name => rw [Watched.step]; split <;> exact ⟨_, _, rfl⟩
  | record size items => cases h
  | fail => cases h

def Event.recorded? : Event → Option (UInt64 × UInt64)
  | .record size items => some (size, items)
  | .fail | .enter _ | .leave _ => none

def recorded (es : List Event) : List (UInt64 × UInt64) := es.filterMap Event.recorded?

@[simp] theorem recorded_append (es es' : List Event) : recorded (es ++ es') = recorded es ++ recorded es' :=
  List.filterMap_append

/-- A counter of files that every event moves by its own part has the sum of the parts. -/
structure Sums (f : Counters → UInt64) (g : List Event → Nat) : Prop where
  fresh : f {} = .ofNat (g [])
  append : ∀ es es', g (es ++ es') = g es + g es'
  worker : ∀ c active peak, f { c with active := active, peak := peak } = f c
  idle : ∀ e : Event, e.addends = [] → g [e] = 0
  record : ∀ c size items, f (c.record size items) = f c + .ofNat (g [.record size items])
  fail : ∀ c, f c.recordFailure = f c + .ofNat (g [.fail])

theorem Sums.step {f : Counters → UInt64} {g : List Event → Nat} (h : Sums f g) (w : Watched) (e : Event) :
    f (w.step e).counters = f w.counters + .ofNat (g [e]) := by
  by_cases idle : e.addends = []
  · obtain ⟨active, peak, same⟩ := step_of_worker idle w
    rw [same, h.worker, h.idle e idle]
    exact (UInt64.add_zero _).symm
  · cases e with
    | enter name => exact absurd rfl idle
    | leave name => exact absurd rfl idle
    | record size items => exact h.record _ _ _
    | fail => exact h.fail _

theorem Sums.after {f : Counters → UInt64} {g : List Event → Nat} (h : Sums f g) (es : List Event) :
    f (after es).counters = .ofNat (g es) := by
  induction es using List.reverseRecOn with
  | nil => exact h.fresh
  | append_singleton es e ih => rw [after_append, h.step, ih, h.append, UInt64.ofNat_add]

theorem idle_recorded {e : Event} (h : e.addends = []) : recorded [e] = [] := by
  cases e with
  | enter name => rfl
  | leave name => rfl
  | record size items => cases h
  | fail => cases h

theorem sums_filesFailed : Sums (·.filesFailed) fun es => es.count .fail where
  fresh := rfl
  append _ _ := List.count_append
  worker _ _ _ := rfl
  idle e he := List.count_eq_zero.mpr fun h => by rw [← List.mem_singleton.mp h] at he; cases he
  record _ _ _ := (UInt64.add_zero _).symm
  fail _ := rfl

/-- What is counted of the files that were read is left alone by those that were not. -/
theorem sums_of_recorded (f : Counters → UInt64) (k : List (UInt64 × UInt64) → Nat) (zero : k [] = 0)
    (append : ∀ a b, k (a ++ b) = k a + k b) (fresh : f {} = 0)
    (worker : ∀ c active peak, f { c with active := active, peak := peak } = f c)
    (record : ∀ c size items, f (c.record size items) = f c + .ofNat (k [(size, items)]))
    (fail : ∀ c, f c.recordFailure = f c) : Sums f fun es => k (recorded es) where
  fresh := by rw [fresh, show recorded [] = [] from rfl, zero]; rfl
  append es es' := by rw [recorded_append, append]
  worker := worker
  idle e he := by rw [idle_recorded he, zero]
  record := record
  fail c := by rw [fail, show recorded [.fail] = [] from rfl, zero]; exact (UInt64.add_zero _).symm

theorem sums_filesRead : Sums (·.filesRead) fun es => (recorded es).length :=
  sums_of_recorded _ _ rfl (fun _ _ => List.length_append) rfl (fun _ _ _ => rfl) (fun _ _ _ => rfl) fun _ => rfl

theorem sums_bytesRead : Sums (·.bytesRead) fun es => ((recorded es).map (·.1.toNat)).sum := by
  refine sums_of_recorded (·.bytesRead) (fun rs => (rs.map (·.1.toNat)).sum) rfl (fun a b => ?_) rfl (fun _ _ _ => rfl)
    (fun c size items => ?_) fun _ => rfl
  · rw [List.map_append, List.sum_append]
  · exact congrArg (c.bytesRead + ·) UInt64.ofNat_toNat.symm

theorem sums_itemsFound : Sums (·.itemsFound) fun es => ((recorded es).map (·.2.toNat)).sum := by
  refine sums_of_recorded (·.itemsFound) (fun rs => (rs.map (·.2.toNat)).sum) rfl (fun a b => ?_) rfl (fun _ _ _ => rfl)
    (fun c size items => ?_) fun _ => rfl
  · rw [List.map_append, List.sum_append]
  · exact congrArg (c.itemsFound + ·) UInt64.ofNat_toNat.symm

theorem sums_filesMapped :
    Sums (·.filesMapped) fun es => (recorded es).countP fun r => 10 * 1024 * 1024 ≤ r.1.toNat := by
  refine sums_of_recorded (·.filesMapped) (fun rs => rs.countP fun r => 10 * 1024 * 1024 ≤ r.1.toNat) rfl
    (fun _ _ => List.countP_append) rfl (fun _ _ _ => rfl) (fun c size items => ?_) fun _ => rfl
  have large : largeFile ≤ size ↔ 10 * 1024 * 1024 ≤ size.toNat := UInt64.le_iff_toNat_le
  by_cases h : largeFile ≤ size
  · simp [Counters.record, h, large.mp h]
  · have := mt large.mpr h
    simp [Counters.record, h, this]

end MarkerScan.Counters
