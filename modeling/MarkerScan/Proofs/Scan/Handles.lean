import Mathlib.Data.List.Basic
import MarkerScan.Proofs.Scan.Sharing
/-
  MarkerScan.Proofs.Scan.Handles — what counters tell through their handles.

  Handles are made and cloned, and calls are made through them, between any two instructions
  of others. What is done through a handle moves the counters it refers to and no others, so
  all counters there are follow the events through their own handles (`sound_of_run`).

  Proved, over every run:
  - `counters_eq_after`: counters on which no call is under way are those of the events through
    their handles, one after another.
  - `exists_rest`: the calls on counters can be brought to their end, and another one made
    (`exists_call`).
  - `counters_exact`: what each counter is at every point, whether calls are under way or not.
-/

namespace MarkerScan.Counters.Handles

theorem history_append (past : List Handles) (w : Handles) (i : Nat) :
    history (past ++ [w]) i = history past i ++ w.shared[i]?.toList := by
  rw [history, List.filterMap_append]
  cases h : w.shared[i]? <;> simp [history, h]

theorem eventsOn_append (w : Handles) (log log' : List (Nat × Event)) (i : Nat) :
    w.eventsOn (log ++ log') i = w.eventsOn log i ++ w.eventsOn log' i :=
  List.filterMap_append

/-- An event is one on the counters its handle refers to, and on no others. -/
theorem eventsOn_single {w : Handles} {handle j : Nat} (hr : w.refs[handle]? = some j) (e : Option Event) (i : Nat) :
    w.eventsOn (e.map (handle, ·)).toList i = if j = i then e.toList else [] := by
  cases e with
  | none => exact (ite_self _).symm
  | some e => by_cases hji : j = i <;> simp [eventsOn, hr, hji]

/-- What all counters that were made, and the handles that refer to them, follow. -/
structure Sound (past : List Handles) (log : List (Nat × Event)) (w : Handles) : Prop where
  made : ∀ i ∈ w.refs, i < w.shared.length
  known : ∀ u ∈ log, u.1 < w.refs.length
  grown : ∀ w' ∈ past, w'.shared.length ≤ w.shared.length
  each : ∀ i s, w.shared[i]? = some s → Follows (w.eventsOn log i) (history past i) s

theorem sound_start : Sound [{}] [] {} where
  made i h := nomatch h
  known u h := nomatch h
  grown w' h := List.mem_singleton.mp h ▸ Nat.le_refl _
  each i s h := by simp at h

variable {past : List Handles} {log : List (Nat × Event)} {w : Handles} {i j : Nat}

/-- A new handle changes nothing of what was done through the others. -/
theorem Sound.eventsOn_ref (h : Sound past log w) (shared : List Shared) (j : Nat) :
    eventsOn ⟨shared, w.refs ++ [j]⟩ log i = w.eventsOn log i := by
  refine List.filterMap_congr fun u hu => ?_
  show (if (w.refs ++ [j])[u.1]? = some i then _ else _) = _
  rw [List.getElem?_append_left (h.known u hu)]

/-- Nothing was done so far on counters that nothing refers to. -/
theorem Sound.eventsOn_nil (h : Sound past log w) (hi : w.shared.length ≤ i) : w.eventsOn log i = [] := by
  refine List.filterMap_eq_nil_iff.mpr fun u _ => if_neg fun hr => ?_
  exact Nat.not_lt_of_le hi (h.made i (List.mem_of_getElem? hr))

theorem Sound.history_nil (h : Sound past log w) (hi : w.shared.length ≤ i) : history past i = [] :=
  List.filterMap_eq_nil_iff.mpr fun v hv => List.getElem?_eq_none (Nat.le_trans (h.grown v hv) hi)

theorem Sound.grown_append (h : Sound past log w) {w' : Handles} (hle : w.shared.length ≤ w'.shared.length) :
    ∀ v ∈ past ++ [w'], v.shared.length ≤ w'.shared.length := by
  intro v hv
  rcases List.mem_append.mp hv with hv | hv
  · exact Nat.le_trans (h.grown v hv) hle
  · exact List.mem_singleton.mp hv ▸ Nat.le_refl _

/-- Counters that do not move follow what they did. -/
theorem Sound.stay {s : Shared} (h : Sound past log w) (hs : w.shared[i]? = some s) {w' : Handles}
    (same : w'.shared[i]? = some s) : Follows (w.eventsOn log i) (history (past ++ [w']) i) s := by
  rw [history_append, same]
  exact (h.each i s hs).silent rfl rfl rfl (h.each i s hs).saw

theorem Sound.new (h : Sound past log w) :
    let w' : Handles := ⟨w.shared ++ [({} : Shared)], w.refs ++ [w.shared.length]⟩
    Sound (past ++ [w']) log w' := by
  intro w'
  have longer : w'.shared.length = w.shared.length + 1 := List.length_append
  refine ⟨fun i hi => ?_, fun u hu => ?_, h.grown_append (longer ▸ Nat.le_succ _), fun i s hs => ?_⟩
  · rw [longer]
    rcases List.mem_append.mp hi with hi | hi
    · exact Nat.lt_succ_of_lt (h.made i hi)
    · exact List.mem_singleton.mp hi ▸ Nat.lt_succ_self _
  · exact Nat.lt_of_lt_of_le (h.known u hu) (List.length_append ▸ Nat.le_add_right ..)
  · rw [h.eventsOn_ref]
    rcases Nat.lt_or_ge i w.shared.length with hi | hi
    · exact h.stay ((List.getElem?_append_left hi).symm.trans hs) hs
    · have last : i = w.shared.length := by
        have := (List.getElem?_eq_some_iff.mp hs).1
        omega
      have fresh : w'.shared[i]? = some {} := last ▸ List.getElem?_concat_length
      obtain rfl := Option.some.inj (hs.symm.trans fresh)
      rw [h.eventsOn_nil hi, history_append, h.history_nil hi, hs]
      exact follows_fresh

theorem Sound.clone (h : Sound past log w) (hj : j ∈ w.refs) :
    let w' : Handles := { w with refs := w.refs ++ [j] }
    Sound (past ++ [w']) log w' := by
  intro w'
  refine ⟨fun i hi => ?_, fun u hu => ?_, h.grown_append (Nat.le_refl _), fun i s hs => ?_⟩
  · rcases List.mem_append.mp hi with hi | hi
    · exact h.made i hi
    · exact List.mem_singleton.mp hi ▸ h.made j hj
  · exact Nat.lt_of_lt_of_le (h.known u hu) (List.length_append ▸ Nat.le_add_right ..)
  · rw [h.eventsOn_ref]
    exact h.stay hs hs

theorem Sound.move (h : Sound past log w) {handle : Nat} {s s' : Shared} {e : Option Event}
    (hr : w.refs[handle]? = some j) (hs : w.shared[j]? = some s) (step : s.Step e s') :
    let w' : Handles := { w with shared := w.shared.set j s' }
    Sound (past ++ [w']) (log ++ (e.map (handle, ·)).toList) w' := by
  intro w'
  have same : w'.shared.length = w.shared.length := List.length_set
  refine ⟨fun i hi => ?_, fun u hu => ?_, h.grown_append (Nat.le_of_eq same.symm), fun i t ht => ?_⟩
  · exact same ▸ h.made i hi
  · rcases List.mem_append.mp hu with hu | hu
    · exact h.known u hu
    · obtain ⟨x, -, rfl⟩ := Option.map_eq_some_iff.mp (Option.mem_toList.mp hu)
      exact (List.getElem?_eq_some_iff.mp hr).1
  · have events : w'.eventsOn (log ++ (e.map (handle, ·)).toList) i =
        w.eventsOn log i ++ if j = i then e.toList else [] := by
      rw [eventsOn_append, eventsOn_single (w := w') hr]
      rfl
    rw [events]
    by_cases hji : j = i
    · subst hji
      have moved : w'.shared[j]? = some s' := List.getElem?_set_self (h.made j (List.mem_of_getElem? hr))
      obtain rfl := Option.some.inj (ht.symm.trans moved)
      rw [if_pos rfl, history_append, moved]
      exact (h.each j s hs).step step
    · rw [if_neg hji, List.append_nil]
      exact h.stay ((List.getElem?_set_ne hji).symm.trans ht) ht

theorem sound_of_run (h : Run past log w) : Sound past log w := by
  induction h with
  | start => exact sound_start
  | step _ hs ih =>
    cases hs with
    | new => exact (List.append_nil _).symm ▸ ih.new
    | clone hr => exact (List.append_nil _).symm ▸ ih.clone (List.mem_of_getElem? hr)
    | move hr hs step => exact ih.move hr hs step

/-- With no call under way on them, counters are those of the events through their handles one after another. -/
theorem counters_eq_after (run : Run past log w) {s : Shared} (hs : w.shared[i]? = some s) (entering : s.entering = [])
    (pending : s.pending = []) : s.counters = (after (w.eventsOn log i)).counters :=
  ((sound_of_run run).each i s hs).counters_eq entering pending

theorem run_goes (run : Run past log w) {handle : Nat} {s s' : Shared} (hr : w.refs[handle]? = some i)
    (hs : w.shared[i]? = some s) (goes : s.Goes s') :
    ∃ past' w', Run past' log w' ∧ w'.refs = w.refs ∧ w'.shared[i]? = some s' := by
  induction goes with
  | refl => exact ⟨past, w, run, rfl, hs⟩
  | tail _ step ih =>
    obtain ⟨past', w', run', refs, hs'⟩ := ih
    have next := run'.step (.move (refs ▸ hr) hs' step)
    rw [Option.map_none, Option.toList_none, List.append_nil] at next
    exact ⟨_, _, next, refs, List.getElem?_set_self (List.getElem?_eq_some_iff.mp hs').1⟩

/-- The calls on the counters of a handle can be brought to their end, while no other counters move. -/
theorem exists_rest (run : Run past log w) {handle : Nat} (hr : w.refs[handle]? = some i) :
    ∃ past' w', Run past' log w' ∧ w'.refs = w.refs ∧
      ∃ s, w'.shared[i]? = some s ∧ s.entering = [] ∧ s.pending = [] := by
  have made : i < w.shared.length := (sound_of_run run).made i (List.mem_of_getElem? hr)
  obtain ⟨s, goes, entering, pending, -⟩ := comes_to_rest w.shared[i]
  obtain ⟨past', w', run', refs, hs⟩ := run_goes run hr (List.getElem?_eq_getElem made) goes
  exact ⟨past', w', run', refs, s, hs, entering, pending⟩

/-- Calls one after another are a run: each can be made through any handle of its counters, and comes to its end. -/
theorem exists_call (run : Run past log w) {handle : Nat} (hr : w.refs[handle]? = some i) {e : Event}
    (allowed : (after (w.eventsOn log i)).Allows e) :
    ∃ past' w', Run past' (log ++ [(handle, e)]) w' ∧ w'.refs = w.refs ∧
      ∃ s, w'.shared[i]? = some s ∧ s.entering = [] ∧ s.pending = [] := by
  obtain ⟨past₁, w₁, run₁, refs, s₁, hs₁, entering, -⟩ := exists_rest run hr
  have same : w₁.eventsOn log i = w.eventsOn log i := by rw [eventsOn, refs, eventsOn]
  have hr₁ : w₁.refs[handle]? = some i := refs ▸ hr
  obtain ⟨s₂, step⟩ := ((sound_of_run run₁).each i s₁ hs₁).exists_step entering (same ▸ allowed)
  obtain ⟨past₂, w₂, run₂, refs₂, rest⟩ := exists_rest (run₁.step (.move hr₁ hs₁ step)) hr₁
  exact ⟨past₂, w₂, run₂, refs₂.trans refs, rest⟩

/-- At every point of every run, whichever handle one looks through and through whichever clones the calls were made:
    the workers are those that came in and did not leave, each with a guard or about to have one, and a guard that is
    dropped takes exactly one away. The peak is not above the most workers there have been, and is their number when
    nobody is about to be in. When nothing is still to be added, the files are those of the events, in words of 64
    bits. -/
theorem counters_exact (run : Run past log w) {handle : Nat} (hr : w.refs[handle]? = some i) :
    let events := w.eventsOn log i
    let states := history past i
    ∃ s, w.shared[i]? = some s ∧
      (s.names.Perm (after events).inside ∧ s.counters.active.toNat = s.guards.length + s.entering.length ∧
        ∀ name s', s.Step (some (.leave name)) s' → s'.counters.active.toNat + 1 = s.counters.active.toNat) ∧
      ((∃ s' ∈ states, s.counters.peak ≤ s'.counters.active) ∧
        (s.entering = [] → s.counters.active.toNat = s.guards.length ∧
          (∀ s' ∈ states, s'.counters.active ≤ s.counters.peak) ∧
          ∃ s' ∈ states, s'.counters.active = s.counters.peak)) ∧
      (s.pending = [] →
        s.counters.filesRead = .ofNat (recorded events).length ∧
        s.counters.filesFailed = .ofNat (events.count .fail) ∧
        s.counters.bytesRead = .ofNat ((recorded events).map (·.1.toNat)).sum ∧
        s.counters.itemsFound = .ofNat ((recorded events).map (·.2.toNat)).sum ∧
        s.counters.filesMapped = .ofNat ((recorded events).countP fun r => 10 * 1024 * 1024 ≤ r.1.toNat)) := by
  intro events states
  have sound := sound_of_run run
  have made : i < w.shared.length := sound.made i (List.mem_of_getElem? hr)
  have hs : w.shared[i]? = some w.shared[i] := List.getElem?_eq_getElem made
  have follows : Follows events states w.shared[i] := sound.each i _ hs
  generalize w.shared[i] = s at hs follows
  obtain ⟨below, top, htop, attained⟩ := follows.highest
  have workers : s.counters.active.toNat = s.guards.length + s.entering.length := follows.active.trans (length_names s)
  refine ⟨s, hs, ⟨follows.inside, workers, fun name s' step => ?_⟩, ⟨⟨top, htop, ?_⟩, fun entering => ?_⟩,
    fun pending => ?_⟩
  · rw [follows.active, step.names_of_leave.length_eq]
    exact congrArg (· + 1) (follows.step step).active
  · rw [attained, ← follows.settled]
    exact peak_le_foldl_due ..
  · rw [← settled_peak entering, follows.settled]
    exact ⟨workers.trans (by rw [entering]; rfl), below, top, htop, attained⟩
  · obtain ⟨peak, same⟩ := settled_files pending
    have now : (after events).counters = { s.counters with peak := peak } := follows.settled.symm.trans same
    refine ⟨?_, ?_, ?_, ?_, ?_⟩
    · rw [← sums_filesRead.after, now]
    · rw [← sums_filesFailed.after, now]
    · rw [← sums_bytesRead.after, now]
    · rw [← sums_itemsFound.after, now]
    · rw [← sums_filesMapped.after, now]

/-- Two handles of some counters, and a third one of others. -/
def twoAndOne (s other : Shared) : Handles := ⟨[s, other], [0, 0, 1]⟩

/-- Two workers come in at once through two clones, and both see no peak. The second of them puts its own there, and
    the exchange of the first fails. Then the second leaves, a large file is recorded, and a failure on other
    counters. -/
theorem counters_exact_two_clones :
    ∃ past w s,
      Run past [(0, .enter "a"), (1, .enter "b"), (1, .leave "b"), (1, .record 10485760 3), (2, .fail)] w ∧
      w.refs[1]? = some 0 ∧ w.shared[0]? = some s ∧ s.counters.active.toNat = 1 ∧
      s.counters.peak = 2 ∧ (∀ s' ∈ history past 0, s'.counters.active ≤ s.counters.peak) ∧
      s.counters.filesRead = 1 ∧ s.counters.filesFailed = 0 ∧ s.counters.bytesRead = 10485760 ∧
      s.counters.itemsFound = 3 ∧ s.counters.filesMapped = 1 := by
  have made : Run _ _ (twoAndOne ⟨{}, []⟩ {}) := ((Run.start.step .new).step (@Step.clone _ 0 0 rfl)).step .new
  have a : Run _ _ (twoAndOne ⟨{ active := 1 }, [.look "a" 1]⟩ {}) :=
    made.step (@Step.move _ 0 0 _ _ _ rfl rfl (.enter (by decide) (by decide)))
  have b : Run _ _ (twoAndOne ⟨{ active := 2 }, [.look "b" 2, .look "a" 1]⟩ {}) :=
    a.step (@Step.move _ 1 0 _ _ _ rfl rfl (.enter (by decide) (by decide)))
  have looked : Run _ _ (twoAndOne ⟨{ active := 2 }, [.raise "b" 2 0, .raise "a" 1 0]⟩ {}) :=
    (b.step (@Step.move _ 0 0 _ _ none rfl rfl (.go [.look "b" 2] [] .look))).step
      (@Step.move _ 1 0 _ _ none rfl rfl (.go [] [.raise "a" 1 0] .look))
  have raised : Run _ _ (twoAndOne ⟨{ active := 2, peak := 2 }, [.guard "b", .raise "a" 1 0]⟩ {}) :=
    looked.step (@Step.move _ 1 0 _ _ none rfl rfl (.go [] [.raise "a" 1 0] (.exchange (by decide))))
  have failed : Run _ _ (twoAndOne ⟨{ active := 2, peak := 2 }, [.guard "b", .guard "a"]⟩ {}) :=
    (raised.step (@Step.move _ 0 0 _ _ none rfl rfl (.go [.guard "b"] [] (.again (by decide))))).step
      (@Step.move _ 0 0 _ _ none rfl rfl (.go [.guard "b"] [] (.enough (by decide))))
  have left : Run _ _ (twoAndOne ⟨{ active := 1, peak := 2 }, [.guard "a"]⟩ {}) :=
    failed.step (@Step.move _ 1 0 _ _ (some (.leave "b")) rfl rfl (.leave [] [.guard "a"]))
  have begun : Run _ _ (twoAndOne ⟨{ active := 1, peak := 2 },
      [.report [.fileRead, .bytes 10485760, .items 3, .fileMapped], .guard "a"]⟩ {}) :=
    left.step (@Step.move _ 1 0 _ _ (some (.record 10485760 3)) rfl rfl (.report (by decide)))
  have added : Run _ _ (twoAndOne ⟨⟨1, 2, 1, 0, 10485760, 1, 3⟩, [.report [], .guard "a"]⟩ {}) :=
    (((begun.step (@Step.move _ 1 0 _ _ none rfl rfl (.go [] [.guard "a"] .add))).step
      (@Step.move _ 1 0 _ _ none rfl rfl (.go [] [.guard "a"] .add))).step
      (@Step.move _ 1 0 _ _ none rfl rfl (.go [] [.guard "a"] .add))).step
      (@Step.move _ 1 0 _ _ none rfl rfl (.go [] [.guard "a"] .add))
  have other : Run _ _ (twoAndOne ⟨⟨1, 2, 1, 0, 10485760, 1, 3⟩, [.guard "a"]⟩ ⟨{}, [.report [.fileFailed]]⟩) :=
    (added.step (@Step.move _ 1 0 _ _ none rfl rfl (.reported [] [.guard "a"]))).step
      (@Step.move _ 2 1 _ _ (some .fail) rfl rfl (.report (by decide)))
  obtain ⟨s, hs, ⟨-, active, -⟩, ⟨-, peak⟩, files⟩ := @counters_exact _ _ _ 0 other 1 rfl
  obtain rfl := Option.some.inj hs
  obtain ⟨filesRead, filesFailed, bytesRead, itemsFound, filesMapped⟩ := files rfl
  exact ⟨_, _, _, other, rfl, rfl, active, rfl, (peak rfl).2.1, filesRead, filesFailed, bytesRead, itemsFound,
    filesMapped⟩

end MarkerScan.Counters.Handles
