import MarkerScan.Proofs.Delivery.Retry
import MarkerScan.Proofs.Scan.Pool
/-
  MarkerScan.Proofs.Delivery.Workers — what delivering with many workers ends with.

  The outcomes of a deliverer are scripted when the outcome of a try depends on the item's
  place and on how often the item was tried before, and on nothing else (`Scripted`). Then
  the tries of each item are those of a run by itself, whatever happens to the others in the
  meantime: a move on an item is the next step of its run, and a move on another item
  changes neither its tries nor what is told of it (`work_keeps`).

  Proved, over every order in which the workers can make their moves:
  - `accounts_of_delivers`: the report, the tries and what is told are those of the runs.
  - `exists_delivers`, `work_ends`: the work can be done, and it cannot go on forever.
  - `delivers_deliverAll`: taking one item after the other is one of these orders.
-/

namespace MarkerScan.Deliverer

open RetryPolicy (attempt)

variable {σ : Type} {deliver : Deliverer σ} {policy : RetryPolicy} {items : List Item} {s : σ}
  {script : Nat → Nat → Except DeliveryError Unit} {i j : Nat} {d : Desk σ} {p : Parcel}

/-- The state after tries of the items at these places. -/
def stateAfter (deliver : Deliverer σ) (items : List Item) (s : σ) (calls : List Nat) : σ :=
  calls.foldl (fun s i => (items[i]?.map fun item => (deliver i item s).2).getD s) s

/-- Whatever was tried before, the outcome of a try depends on its item and on how often this one was tried only. -/
def Scripted (deliver : Deliverer σ) (items : List Item) (s : σ) (script : Nat → Nat → Except DeliveryError Unit) :
    Prop :=
  ∀ calls i item, items[i]? = some item →
    (deliver i item (stateAfter deliver items s calls)).1 = script i (calls.count i)

@[simp] theorem length_parcels (items : List Item) : (parcels items).length = items.length := by
  simp [parcels]

/-! ## One move -/

theorem move_try {result : Except DeliveryError Unit} {state : σ} (hp : p.ended = none)
    (h : deliver p.place p.item d.state = (result, state)) :
    deliver.move policy p d =
      (.inl { p with tries := p.tries + 1, ended := if policy.goesOn (p.tries + 1) result then none else some result },
        { d with state := state, calls := d.calls ++ [p.place] }) := by
  simp only [move, hp, h]

theorem move_tell {result : Except DeliveryError Unit} (hp : p.ended = some result) :
    deliver.move policy p d =
      (.inr (p.item.failure? (⟨result, p.tries, [], ()⟩ : RetryPolicy.Run Unit Unit)),
        { d with told := d.told ++ [(p.place, result.isOk)] }) := by
  simp only [move, hp]

/-- How many moves there can still be on a parcel. -/
def movesLeft (policy : RetryPolicy) (p : Parcel) : Nat := if p.ended.isSome then 1 else policy.allowed - p.tries + 2

theorem work_shrinks : Pool.Shrinks (deliver.work policy) (movesLeft policy) := by
  refine ⟨fun p d p' d' h => ?_, fun p d r d' h => ?_⟩
  · have h : deliver.move policy p d = (.inl p', d') := h
    cases hp : p.ended with
    | some result =>
      rw [move_tell hp] at h
      cases h
    | none =>
      rw [move_try hp rfl] at h
      obtain rfl := Sum.inl.inj (Prod.mk.inj h).1
      cases hg : policy.goesOn (p.tries + 1) (deliver p.place p.item d.state).1 with
      | false => simp [movesLeft, hp]
      | true =>
        have := (RetryPolicy.goesOn_iff.mp hg).2
        simp only [movesLeft, hp, if_true, Option.isSome_none, Bool.false_eq_true, if_false]
        omega
  · unfold movesLeft
    split <;> omega

/-! ## What is told of one item -/

/-- What was told of the item at a place. -/
def toldOf (d : Desk σ) (i : Nat) : List (Nat × Bool) := d.told.filter (·.1 == i)

/-- The parcel is where the run of its item is after so many tries. -/
def Underway (policy : RetryPolicy) (script : Nat → Except DeliveryError Unit) (p : Parcel) : Prop :=
  match p.ended with
  | none => p.tries < policy.allowed ∧
      ∃ waits, policy.runScript script = { policy.runFrom (attempt script) p.tries p.tries with waits := waits }
  | some result => (policy.runScript script).result = result ∧ (policy.runScript script).attempts = p.tries

/-- The desk is in order: the state comes from the tries, and tries and what is told are of items. -/
structure Orderly (deliver : Deliverer σ) (items : List Item) (s : σ) (d : Desk σ) : Prop where
  state : d.state = stateAfter deliver items s d.calls
  calls : ∀ i ∈ d.calls, i < items.length
  told : ∀ x ∈ d.told, x.1 < items.length

/-- Where the item at a place stands: its run is underway and not told of, or has come to its end and is told of. -/
def Standing (policy : RetryPolicy) (items : List Item) (script : Nat → Nat → Except DeliveryError Unit) (i : Nat) :
    Parcel ⊕ Option DeliveryFailure → Desk σ → Prop
  | .inl p, d => p.place = i ∧ items[i]? = some p.item ∧ d.calls.count i = p.tries ∧ toldOf d i = [] ∧
      Underway policy (script i) p
  | .inr outcome, d => (∃ item, items[i]? = some item ∧ outcome = item.failure? (policy.runScript (script i))) ∧
      d.calls.count i = (policy.runScript (script i)).attempts ∧
      toldOf d i = [(i, (policy.runScript (script i)).result.isOk)]

theorem standing_of_same {d d' : Desk σ} {x : Parcel ⊕ Option DeliveryFailure} (hc : d'.calls.count i = d.calls.count i)
    (ht : toldOf d' i = toldOf d i) (h : Standing policy items script i x d) : Standing policy items script i x d' := by
  cases x with
  | inl p =>
    obtain ⟨hplace, hitem, hcount, htold, hway⟩ := h
    exact ⟨hplace, hitem, hc.trans hcount, ht.trans htold, hway⟩
  | inr o =>
    obtain ⟨houtcome, hcount, htold⟩ := h
    exact ⟨houtcome, hc.trans hcount, ht.trans htold⟩

theorem stateAfter_concat {item : Item} {calls : List Nat} (hi : items[i]? = some item) :
    stateAfter deliver items s (calls ++ [i]) = (deliver i item (stateAfter deliver items s calls)).2 := by
  rw [stateAfter, List.foldl_append, List.foldl_cons, List.foldl_nil, hi]
  rfl

theorem underway_start (policy : RetryPolicy) (script : Nat → Except DeliveryError Unit) (i : Nat) (item : Item) :
    Underway policy script { place := i, item := item } :=
  ⟨policy.allowed_pos, _, rfl⟩

/-- A try is the next step of the run. -/
theorem underway_try {script : Nat → Except DeliveryError Unit} (hp : p.ended = none) (h : Underway policy script p) :
    Underway policy script { p with
      tries := p.tries + 1
      ended := if policy.goesOn (p.tries + 1) (script p.tries) then none else some (script p.tries) } := by
  have hop : attempt script p.tries = (script p.tries, p.tries + 1) := rfl
  rw [Underway, hp] at h
  obtain ⟨hlt, waits, hrun⟩ := h
  cases hg : policy.goesOn (p.tries + 1) (script p.tries) with
  | false =>
    rw [RetryPolicy.runFrom_last hop hlt hg] at hrun
    simp only [Underway, Bool.false_eq_true, if_false, hrun, and_self]
  | true =>
    obtain ⟨waits', hnext⟩ := RetryPolicy.runFrom_again hop hg
    rw [hnext] at hrun
    exact ⟨(RetryPolicy.goesOn_iff.mp hg).2, waits, hrun⟩

theorem failure?_congr {σ' : Type} {item : Item} {run : RetryPolicy.Run σ Unit} {run' : RetryPolicy.Run σ' Unit}
    (hr : run.result = run'.result) (ha : run.attempts = run'.attempts) : item.failure? run = item.failure? run' := by
  rw [Item.failure?, Item.failure?, hr, ha]

theorem toldOf_concat (b : Bool) :
    toldOf { d with told := d.told ++ [(i, b)] } j = if i = j then toldOf d j ++ [(i, b)] else toldOf d j := by
  by_cases h : i = j <;> simp [toldOf, h]

theorem work_keeps (hs : Scripted deliver items s script) :
    Pool.Keeps (deliver.work policy) (Orderly deliver items s) (Standing policy items script) where
  enter h := h
  entered h := h
  move := by
    rintro i p d ⟨hstate, hcalls, htolds⟩ ⟨rfl, hitem, hcount, htold, hway⟩
    have inside : p.place < items.length := (List.getElem?_eq_some_iff.mp hitem).1
    show Orderly deliver items s (deliver.move policy p d).2 ∧
      Standing policy items script p.place (deliver.move policy p d).1 (deliver.move policy p d).2
    cases hp : p.ended with
    | none =>
      have outcome : deliver p.place p.item d.state =
          (script p.place p.tries, stateAfter deliver items s (d.calls ++ [p.place])) := by
        rw [hstate, stateAfter_concat hitem, ← hcount, ← hs _ _ _ hitem]
      rw [move_try hp outcome]
      refine ⟨⟨rfl, fun i hi => ?_, htolds⟩, rfl, hitem, ?_, htold, underway_try hp hway⟩
      · rcases List.mem_append.mp hi with hi | hi
        · exact hcalls i hi
        · rwa [List.mem_singleton.mp hi]
      · rw [List.count_append, hcount, List.count_singleton_self]
    | some result =>
      rw [Underway, hp] at hway
      obtain ⟨hresult, hattempts⟩ := hway
      rw [move_tell hp]
      refine ⟨⟨hstate, hcalls, fun x hx => ?_⟩, ⟨p.item, hitem, failure?_congr hresult.symm hattempts.symm⟩,
        hcount.trans hattempts.symm, ?_⟩
      · rcases List.mem_append.mp hx with hx | hx
        · exact htolds x hx
        · rwa [List.mem_singleton.mp hx]
      · rw [toldOf_concat, if_pos rfl, htold, hresult, List.nil_append]
  beside := by
    rintro i j p x d - ⟨rfl, -⟩ hne h
    show Standing policy items script j x (deliver.move policy p d).2
    have hne : p.place ≠ j := Ne.symm hne
    cases hp : p.ended with
    | none =>
      rw [move_try hp rfl]
      refine standing_of_same (d := d) ?_ rfl h
      rw [List.count_append, List.count_singleton, if_neg (by simpa using hne), Nat.add_zero]
    | some result =>
      rw [move_tell hp]
      refine standing_of_same (d := d) rfl ?_ h
      rw [toldOf_concat, if_neg hne]

/-! ## The report -/

theorem ofOutcomes_eq (outcomes : List (Option DeliveryFailure)) :
    DeliveryReport.ofOutcomes outcomes = ⟨outcomes.countP Option.isNone, outcomes.filterMap id⟩ := by
  have onto : ∀ r : DeliveryReport, outcomes.foldl DeliveryReport.add r =
      ⟨r.delivered + outcomes.countP Option.isNone, r.failures ++ outcomes.filterMap id⟩ := by
    induction outcomes with
    | nil => simp
    | cons o outcomes ih =>
      intro r
      rw [List.foldl_cons, ih]
      cases o <;> simp [DeliveryReport.add, Nat.add_assoc, Nat.add_comm]
  simpa [DeliveryReport.ofOutcomes] using onto {}

/-- Every item is in the report once. -/
theorem total_ofOutcomes (outcomes : List (Option DeliveryFailure)) :
    (DeliveryReport.ofOutcomes outcomes).total = outcomes.length := by
  rw [ofOutcomes_eq, DeliveryReport.total]
  induction outcomes with
  | nil => rfl
  | cons o outcomes ih =>
    cases o with
    | none =>
      simp only [List.countP_cons, List.filterMap_cons, List.length_cons, Option.isNone_none, if_true, id] at ih ⊢
      omega
    | some f =>
      simp only [List.countP_cons, List.filterMap_cons, List.length_cons, Option.isNone_some, Bool.false_eq_true,
        if_false, id] at ih ⊢
      omega

theorem isNone_failure? {item : Item} (run : RetryPolicy.Run σ Unit) :
    (item.failure? run).isNone = run.result.isOk := by
  unfold Item.failure?
  cases run.result <;> rfl

/-- The report has each item with what its run amounts to, and the item was tried as often as its run says and told
    of once. -/
structure Accounts (policy : RetryPolicy) (items : List Item) (script : Nat → Nat → Except DeliveryError Unit)
    (report : DeliveryReport) (d : Desk σ) : Prop where
  delivered : report.delivered =
    (List.range items.length).countP fun i => (policy.runScript (script i)).result.isOk
  failures : report.failures = items.zipIdx.filterMap fun x => x.1.failure? (policy.runScript (script x.2))
  total : report.delivered + report.failures.length = items.length
  tries : ∀ i < items.length, d.calls.count i = (policy.runScript (script i)).attempts
  told : ∀ i < items.length, toldOf d i = [(i, (policy.runScript (script i)).result.isOk)]
  nothingElse : (∀ i ∈ d.calls, i < items.length) ∧ ∀ x ∈ d.told, x.1 < items.length

theorem Accounts.report_eq {report report' : DeliveryReport} {d d' : Desk σ} (h : Accounts policy items script report d)
    (h' : Accounts policy items script report' d') : report = report' := by
  cases report
  cases report'
  rw [DeliveryReport.mk.injEq]
  exact ⟨h.delivered.trans h'.delivered.symm, h.failures.trans h'.failures.symm⟩

theorem standing_start {p : Parcel} (hp : (parcels items)[i]? = some p) :
    Standing policy items script i (.inl p) { state := s } := by
  simp only [parcels, List.getElem?_map, List.getElem?_zipIdx, Option.map_map, Option.map_eq_some_iff] at hp
  obtain ⟨item, hi, rfl⟩ := hp
  exact ⟨by simp, hi, rfl, rfl, underway_start ..⟩

/-- What the runs of the items amount to, in the order of the items. -/
def outcomesOf (policy : RetryPolicy) (items : List Item) (script : Nat → Nat → Except DeliveryError Unit) :
    List (Option DeliveryFailure) :=
  items.zipIdx.map fun x => x.1.failure? (policy.runScript (script x.2))

theorem eq_outcomesOf {results : List (Option DeliveryFailure)} (hl : results.length = items.length)
    (h : ∀ (i : Nat) o, results[i]? = some o →
      ∃ item : Item, items[i]? = some item ∧ o = item.failure? (policy.runScript (script i))) :
    results = outcomesOf policy items script := by
  refine List.ext_getElem? fun i => ?_
  rw [outcomesOf, List.getElem?_map, List.getElem?_zipIdx]
  cases ho : results[i]? with
  | none =>
    have : results.length ≤ i := List.getElem?_eq_none_iff.mp ho
    rw [List.getElem?_eq_none (hl ▸ this)]
    rfl
  | some o =>
    obtain ⟨item, hitem, rfl⟩ := h i o ho
    simp [hitem]

theorem countP_outcomesOf : (outcomesOf policy items script).countP Option.isNone =
    (List.range items.length).countP fun i => (policy.runScript (script i)).result.isOk := by
  rw [outcomesOf, List.range_eq_range', ← List.zipIdx_map_snd 0 items, List.countP_map, List.countP_map]
  exact congrArg (fun f => List.countP f items.zipIdx) (funext fun x => isNone_failure? _)

theorem accounts_of_delivers (hs : Scripted deliver items s script) {workers : Workers} {report : DeliveryReport}
    (h : deliver.Delivers policy workers items s report d) : Accounts policy items script report d := by
  cases h with
  | @done p hp hd =>
    obtain ⟨⟨-, hcalls, htold⟩, hlength, kept⟩ := Pool.kept_of_done (@work_keeps _ _ policy _ _ _ hs)
      ⟨rfl, by simp, by simp⟩ (fun _ _ => standing_start) hp hd
    rw [length_parcels] at hlength
    have results : p.results = outcomesOf policy items script :=
      eq_outcomesOf hlength fun i o ho => (kept i o ho).1
    have stands : ∀ i < items.length, ∃ o, Standing policy items script i (.inr o) p.shared := fun i hi =>
      ⟨_, kept i _ (List.getElem?_eq_getElem (hlength ▸ hi))⟩
    refine ⟨?_, ?_, (total_ofOutcomes p.results).trans hlength, fun i hi => ?_, fun i hi => ?_, hcalls, htold⟩
    · rw [ofOutcomes_eq, results, countP_outcomesOf]
    · rw [ofOutcomes_eq, results, outcomesOf, List.filterMap_map]
      rfl
    · obtain ⟨o, -, hcount, -⟩ := stands i hi
      exact hcount
    · obtain ⟨o, -, -, htold⟩ := stands i hi
      exact htold

/-! ## The work is done some time -/

theorem exists_delivers (deliver : Deliverer σ) (policy : RetryPolicy) (workers : Workers) (items : List Item) (s : σ) :
    ∃ report d, deliver.Delivers policy workers items s report d := by
  obtain ⟨p, hp, hd⟩ := Pool.exists_done (@work_shrinks _ deliver policy) workers.positive
    (.start (parcels items) { state := s })
  exact ⟨_, _, .done (Pool.reach_of_steps .start hp) hd⟩

theorem work_ends {limit : Nat} :
    ¬ ∃ run : Nat → Pool Parcel (Option DeliveryFailure) (Desk σ),
      ∀ n, Pool.Step (deliver.work policy) limit (run n) (run (n + 1)) :=
  Pool.no_endless_run work_shrinks

/-! ## One item after the other -/

open Relation (ReflTransGen)

/-- A worker that makes the tries of its item without a pause makes the rest of a run. -/
theorem finish_parcel {limit : Nat} {p : Parcel} (hp : p.ended = none) (hn : p.tries < policy.allowed)
    (waiting : List (Parcel × Nat)) (i : Nat) (slots : List (Option (Option DeliveryFailure))) (d : Desk σ) :
    ∃ d', ReflTransGen (Pool.Step (deliver.work policy) limit) ⟨waiting, [(p, i)], slots, d⟩
        ⟨waiting, [],
          slots.set i (some (p.item.failure? (policy.runFrom (deliver p.place p.item) p.tries d.state))), d'⟩ ∧
      d'.state = (policy.runFrom (deliver p.place p.item) p.tries d.state).state ∧
      d'.told = d.told ++ [(p.place, (policy.runFrom (deliver p.place p.item) p.tries d.state).result.isOk)] := by
  cases hr : deliver p.place p.item d.state with
  | mk result state =>
    have tried : ReflTransGen (Pool.Step (deliver.work policy) limit) ⟨waiting, [(p, i)], slots, d⟩ _ :=
      .single (Pool.Step.go [] [] (move_try hp hr))
    cases hg : policy.goesOn (p.tries + 1) result with
    | false =>
      rw [hg] at tried
      rw [RetryPolicy.runFrom_last hr hn hg]
      refine ⟨{ state := state, calls := d.calls ++ [p.place], told := d.told ++ [(p.place, result.isOk)] },
        tried.tail (Pool.Step.finish [] [] ?_), rfl, rfl⟩
      show deliver.move policy { p with tries := p.tries + 1, ended := some result } _ = _
      rw [move_tell rfl]
      rfl
    | true =>
      rw [hg] at tried
      obtain ⟨waits, hrun⟩ := RetryPolicy.runFrom_again hr hg
      rw [hrun]
      obtain ⟨d', steps, hstate, htold⟩ := finish_parcel (p := { p with tries := p.tries + 1, ended := none }) rfl
        (RetryPolicy.goesOn_iff.mp hg).2 waiting i slots { d with state := state, calls := d.calls ++ [p.place] }
      exact ⟨d', tried.trans steps, hstate, htold⟩
termination_by policy.allowed - p.tries

/-- The parcels of the items from a place on, as they wait. -/
def waitingFrom (n : Nat) (items : List Item) : List (Parcel × Nat) :=
  (items.zipIdx n).map fun x => ({ place := x.2, item := x.1 }, x.2)

theorem zipIdx_parcels (items : List Item) : (parcels items).zipIdx = waitingFrom 0 items := by
  refine List.ext_getElem? fun i => ?_
  simp only [parcels, waitingFrom, List.getElem?_zipIdx, List.getElem?_map, Option.map_map, Nat.zero_add]
  rfl

/-- A free worker takes the first item that waits and keeps it to its end. -/
theorem finish_first (deliver : Item → σ → Except DeliveryError Unit × σ) (policy : RetryPolicy) {limit : Nat}
    (hl : 0 < limit) (item : Item) (n : Nat) (waiting : List (Parcel × Nat))
    (slots : List (Option (Option DeliveryFailure))) (d : Desk σ) :
    ∃ d', ReflTransGen (Pool.Step ((ofItems deliver).work policy) limit)
        ⟨({ place := n, item := item }, n) :: waiting, [], slots, d⟩
        ⟨waiting, [], slots.set n (some (item.failure? (policy.run (deliver item) d.state))), d'⟩ ∧
      d'.state = (policy.run (deliver item) d.state).state ∧
      d'.told = d.told ++ [(n, (policy.run (deliver item) d.state).result.isOk)] := by
  obtain ⟨d', steps, h⟩ := @finish_parcel _ (ofItems deliver) policy limit { place := n, item := item } rfl
    policy.allowed_pos waiting n slots d
  exact ⟨d', .head (Pool.Step.take [] waiting hl) steps, h⟩

/-- One worker takes the items in order. -/
theorem finish_items (deliver : Item → σ → Except DeliveryError Unit × σ) (policy : RetryPolicy) {limit : Nat}
    (hl : 0 < limit) (rest : List Item) (front : List (Option DeliveryFailure)) (d : Desk σ) :
    ∃ d', ReflTransGen (Pool.Step ((ofItems deliver).work policy) limit)
        ⟨waitingFrom front.length rest, [], front.map some ++ rest.map fun _ => none, d⟩
        ⟨[], [], (front ++ (outcomes policy deliver rest d.state).1).map some, d'⟩ ∧
      d'.state = (outcomes policy deliver rest d.state).2 ∧
      d'.told = d.told ++
        ((outcomes policy deliver rest d.state).1.zipIdx front.length).map fun x => (x.2, x.1.isNone) := by
  induction rest generalizing front d with
  | nil => exact ⟨d, by simpa [outcomes, waitingFrom] using ReflTransGen.refl, rfl, by simp [outcomes]⟩
  | cons item rest ih =>
    obtain ⟨d', first, hstate, htold⟩ := finish_first deliver policy hl item front.length
      (waitingFrom (front.length + 1) rest) (front.map some ++ none :: rest.map fun _ => none) d
    rw [outcomes]
    generalize policy.run (deliver item) d.state = run at *
    obtain ⟨d'', others, hstate', htold'⟩ := ih (front ++ [item.failure? run]) d'
    rw [List.length_append, List.length_singleton, hstate] at others htold'
    rw [hstate] at hstate'
    rw [List.set_append_right _ _ (by simp), List.length_map, Nat.sub_self, List.set_cons_zero] at first
    refine ⟨d'', first.trans (by simpa using others), hstate', ?_⟩
    rw [htold', htold, List.zipIdx_cons, List.map_cons, isNone_failure?, List.append_assoc, List.singleton_append]

theorem length_outcomes (deliver : Item → σ → Except DeliveryError Unit × σ) (policy : RetryPolicy) (items : List Item)
    (s : σ) : (outcomes policy deliver items s).1.length = items.length := by
  induction items generalizing s with
  | nil => rfl
  | cons item items ih => exact congrArg (· + 1) (ih _)

/-- What one worker ends with that takes the items in order. -/
theorem delivers_deliverAll (deliver : Item → σ → Except DeliveryError Unit × σ) (policy : RetryPolicy)
    (workers : Workers) (items : List Item) (s : σ) :
    ∃ d, (ofItems deliver).Delivers policy workers items s (deliverAll policy deliver items s).report d ∧
      d.state = (deliverAll policy deliver items s).state ∧
      d.told = (deliverAll policy deliver items s).progress.zipIdx.map fun x => (x.2, x.1.2) := by
  obtain ⟨d, steps, hstate, htold⟩ := finish_items deliver policy workers.positive items [] { state := s }
  have start : Pool.start (parcels items) { state := s } =
      (⟨waitingFrom 0 items, [], items.map fun _ => none, { state := s }⟩ :
        Pool Parcel (Option DeliveryFailure) (Desk σ)) := by
    rw [Pool.start, zipIdx_parcels, List.map_const', List.map_const', length_parcels]
  have reached := Pool.reach_of_steps .start (start ▸ steps)
  have results : ((outcomes policy deliver items s).1.map some).filterMap id = (outcomes policy deliver items s).1 := by
    rw [List.filterMap_map]
    exact List.filterMap_some
  refine ⟨d, ?_, hstate, ?_⟩
  · have done := Delivers.done reached ⟨rfl, rfl⟩
    rwa [Pool.results, List.nil_append, results] at done
  · have told : (deliverAll policy deliver items s).progress.map Prod.snd =
        (outcomes policy deliver items s).1.map Option.isNone :=
      List.map_snd_zip (Nat.le_of_eq (by rw [List.length_map, length_outcomes]))
    have places := congrArg (fun l => l.zipIdx.map Prod.swap) told
    simp only [List.zipIdx_map, List.map_map] at places
    exact htold.trans places.symm

end MarkerScan.Deliverer
