import Mathlib.Logic.Relation
import MarkerScan.Proofs.Scan.Events
/-
  MarkerScan.Proofs.Scan.Sharing — counters that workers move at the same time, against calls
  made one after another.

  Each call that has begun has something due: a peak of at least its own count, or files to be
  added. Whatever the order in which that is done, the counters end the same
  (`foldl_due_perm`), and no instruction of a call changes where they end
  (`Task.Step.dues`): an exchange that fails leaves the peak due, and a worker who is
  content saw no more than the peak is now. So the counters are always on the way to those
  of the same events one after another (`Follows`, kept by `Follows.step`).

  - `Follows.counters_eq`: with no call under way they are those counters.
  - `comes_to_rest`: and the calls can always be brought to their end.
  - `Follows.exists_step`: then every call can be made that can be made one after another.
-/

namespace MarkerScan.Counters

/-! ## What is due -/

/-- What a call has still to do: to bring the peak to `now` at least, or to add. -/
inductive Due where
  | peak (now : UInt64)
  | add (x : Addend)

/-- The peak after a worker who makes it `now`. -/
def higher (peak now : UInt64) : UInt64 := if peak < now then now else peak

def due (c : Counters) : Due → Counters
  | .peak now => { c with peak := higher c.peak now }
  | .add x => c.add x

def Task.dues : Task → List Due
  | .look _ now | .raise _ now _ => [.peak now]
  | .guard _ => []
  | .report rest => rest.map .add

/-- The counters when all that is under way will be over. -/
def Shared.settled (s : Shared) : Counters := (s.tasks.flatMap Task.dues).foldl due s.counters

theorem add_right_comm (c : Counters) (x y : Addend) : (c.add x).add y = (c.add y).add x := by
  have words : ∀ a n m : UInt64, a + n + m = a + m + n := fun a n m => by ac_rfl
  cases x with
  | bytes n =>
    cases y with
    | bytes m => exact congrArg (fun b => { c with bytesRead := b }) (words c.bytesRead n m)
    | _ => rfl
  | items n =>
    cases y with
    | items m => exact congrArg (fun k => { c with itemsFound := k }) (words c.itemsFound n m)
    | _ => rfl
  | _ => cases y <;> rfl

theorem higher_right_comm (p a b : UInt64) : higher (higher p a) b = higher (higher p b) a := by
  grind [higher]

theorem due_right_comm (c : Counters) (x y : Due) : (c.due x).due y = (c.due y).due x := by
  cases x with
  | add x =>
    cases y with
    | add y => exact add_right_comm c x y
    | peak now => cases x <;> rfl
  | peak now =>
    cases y with
    | add y => cases y <;> rfl
    | peak now' => exact congrArg (fun p => { c with peak := p }) (higher_right_comm ..)

/-- The order in which calls do what is due does not matter. -/
theorem foldl_due_perm {ds ds' : List Due} (hp : ds.Perm ds') (c : Counters) : ds.foldl due c = ds'.foldl due c :=
  hp.foldl_eq' (fun x _ y _ c => due_right_comm c x y) c

theorem settled_middle (c : Counters) (before behind : List Task) (t : Task) :
    Shared.settled ⟨c, before ++ t :: behind⟩ = Shared.settled ⟨t.dues.foldl due c, before ++ behind⟩ := by
  have first : (before ++ t :: behind).Perm (t :: (before ++ behind)) := List.perm_middle
  rw [Shared.settled, foldl_due_perm (first.flatMap_right _), List.flatMap_cons, List.foldl_append]
  rfl

/-- What commutes with all that is due can be done first. -/
theorem settled_of_comm {f : Counters → Counters} (hf : ∀ c x, (f c).due x = f (c.due x)) (c : Counters)
    (tasks : List Task) : Shared.settled ⟨f c, tasks⟩ = f (Shared.settled ⟨c, tasks⟩) :=
  List.foldl_hom f hf

theorem enter_due (c : Counters) (x : Due) : c.enter.due x = (c.due x).enter := by
  cases x with
  | add x => cases x <;> rfl
  | peak now => exact congrArg (fun p => { c with active := c.active + 1, peak := p }) (higher_right_comm ..)

theorem leave_due (c : Counters) (x : Due) : c.leave.due x = (c.due x).leave := by
  cases x with
  | add x => cases x <;> rfl
  | peak now => rfl

theorem foldl_due_map_add (c : Counters) (xs : List Addend) : (xs.map Due.add).foldl due c = xs.foldl add c := by
  rw [List.foldl_map]
  rfl

theorem peak_le_due (c : Counters) (d : Due) : c.peak ≤ (c.due d).peak := by
  cases d with
  | add x => cases x <;> exact UInt64.le_refl _
  | peak now =>
    rw [due, higher]
    split
    next hlt => exact UInt64.le_of_lt hlt
    next => exact UInt64.le_refl _

theorem peak_le_foldl_due (c : Counters) (ds : List Due) : c.peak ≤ (ds.foldl due c).peak := by
  induction ds generalizing c with
  | nil => exact UInt64.le_refl _
  | cons d ds ih => exact UInt64.le_trans (peak_le_due c d) (ih (c.due d))

theorem foldl_due_active (c : Counters) (ds : List Due) : (ds.foldl due c).active = c.active := by
  induction ds generalizing c with
  | nil => rfl
  | cons d ds ih =>
    rw [List.foldl_cons, ih]
    cases d with
    | peak now => rfl
    | add x => cases x <;> rfl

/-! ## Instructions -/

/-- What a call saw of the peak is not above it. -/
def Task.SawBelow (peak : UInt64) : Task → Prop
  | .raise _ _ seen => seen ≤ peak
  | .look .. | .guard _ | .report _ => True

section
variable {c c' : Counters} {t t' : Task}

/-- An instruction of a call does not change what the counters will be in the end. -/
theorem Task.Step.dues (h : Task.Step c t c' t') (hs : t.SawBelow c.peak) :
    t'.dues.foldl due c' = t.dues.foldl due c := by
  cases h with
  | look => rfl
  | exchange hlt => exact congrArg (fun p => { c with peak := p }) (if_pos hlt).symm
  | again => rfl
  | @enough name now seen hge =>
    -- the peak may have gone up since it was seen, but not down
    have low : ¬ c.peak < now := fun hlt => hge (UInt64.lt_of_le_of_lt hs hlt)
    exact congrArg (fun p => { c with peak := p }) (if_neg low).symm
  | add => rfl

theorem Task.Step.active (h : Task.Step c t c' t') : c'.active = c.active := by
  cases h with
  | @add x => cases x <;> rfl
  | _ => rfl

theorem Task.Step.name (h : Task.Step c t c' t') : t'.name? = t.name? := by
  cases h <;> rfl

theorem Task.Step.peak_le (h : Task.Step c t c' t') : c.peak ≤ c'.peak := by
  cases h with
  | exchange hlt => exact UInt64.le_of_lt hlt
  | @add x => cases x <;> exact UInt64.le_refl _
  | _ => exact UInt64.le_refl _

theorem Task.Step.sawBelow (h : Task.Step c t c' t') : t'.SawBelow c'.peak := by
  cases h with
  | look => exact UInt64.le_refl _
  | again => exact UInt64.le_refl _
  | _ => trivial

theorem Task.SawBelow.mono {p p' : UInt64} (h : t.SawBelow p) (hle : p ≤ p') : t.SawBelow p' := by
  cases t with
  | raise name now seen => exact UInt64.le_trans h hle
  | _ => trivial

end

/-! ## The steps of the counters -/

/-- `peak` is the greatest number of workers there was in any of the states. -/
def Highest (past : List Shared) (peak : UInt64) : Prop :=
  (∀ s ∈ past, s.counters.active ≤ peak) ∧ ∃ s ∈ past, s.counters.active = peak

theorem highest_append {past : List Shared} {peak : UInt64} (h : Highest past peak) (s : Shared) :
    Highest (past ++ [s]) (higher peak s.counters.active) := by
  obtain ⟨below, top, htop, attained⟩ := h
  rw [higher]
  split
  next hlt =>
    refine ⟨fun x hx => ?_, s, List.mem_append_right _ (List.mem_singleton_self s), rfl⟩
    rcases List.mem_append.mp hx with hx | hx
    · exact UInt64.le_of_lt (UInt64.lt_of_le_of_lt (below x hx) hlt)
    · exact List.mem_singleton.mp hx ▸ UInt64.le_refl _
  next hge =>
    refine ⟨fun x hx => ?_, top, List.mem_append_left _ htop, attained⟩
    rcases List.mem_append.mp hx with hx | hx
    · exact below x hx
    · exact List.mem_singleton.mp hx ▸ UInt64.not_lt.mp hge

theorem highest_append_of_le {past : List Shared} {peak : UInt64} (h : Highest past peak) {s : Shared}
    (hle : s.counters.active ≤ peak) : Highest (past ++ [s]) peak := by
  have same : higher peak s.counters.active = peak := if_neg (UInt64.not_lt.mpr hle)
  exact same ▸ highest_append h s

/-- After these events, in this state and with `past` the states up to it, the counters will be those of the events
    one after another. -/
structure Follows (es : List Event) (past : List Shared) (s : Shared) : Prop where
  settled : s.settled = (after es).counters
  inside : s.names.Perm (after es).inside
  once : s.names.Nodup
  active : s.counters.active.toNat = s.names.length
  saw : ∀ t ∈ s.tasks, t.SawBelow s.counters.peak
  now : s ∈ past
  highest : Highest past (after es).counters.peak

theorem follows_fresh : Follows [] [{}] {} where
  settled := rfl
  inside := .refl _
  once := .nil
  active := rfl
  saw _ h := nomatch h
  now := List.mem_singleton_self _
  highest := ⟨fun _ hs => List.mem_singleton.mp hs ▸ UInt64.le_refl _, {}, List.mem_singleton_self _, rfl⟩

section
variable {es : List Event} {past : List Shared} {s s' : Shared}

/-- What moves no worker, and changes nothing of what the counters will be in the end. -/
theorem Follows.silent (h : Follows es past s) (settled : s'.settled = s.settled) (names : s'.names = s.names)
    (active : s'.counters.active = s.counters.active) (saw : ∀ t ∈ s'.tasks, t.SawBelow s'.counters.peak) :
    Follows es (past ++ [s']) s' where
  settled := settled.trans h.settled
  inside := names ▸ h.inside
  once := names ▸ h.once
  active := by rw [active, names, h.active]
  saw := saw
  now := List.mem_append_right _ (List.mem_singleton_self _)
  highest := highest_append_of_le h.highest (active ▸ h.highest.1 s h.now)

theorem Follows.enter {name : String} (h : Follows es past s) (new : name ∉ s.names)
    (room : s.names.length < mostGuards) :
    let s' : Shared :=
      ⟨{ s.counters with active := s.counters.active + 1 }, .look name (s.counters.active + 1) :: s.tasks⟩
    Follows (es ++ [.enter name]) (past ++ [s']) s' := by
  intro s'
  have out : (after es).inside.contains name = false := by
    rw [List.contains_eq_mem, decide_eq_false_iff_not, ← h.inside.mem_iff]
    exact new
  have step : after (es ++ [.enter name]) = ⟨(after es).counters.enter, name :: (after es).inside⟩ := by
    rw [after_append, Watched.step, out]
    rfl
  -- the only place where the bound on guards is needed
  have fits : s.counters.active.toNat + 1 < 2 ^ 64 := by
    rw [h.active]
    exact Nat.lt_trans (Nat.succ_lt_succ room) (by decide)
  have same : (after es).counters.active = s.counters.active := h.settled ▸ foldl_due_active ..
  refine ⟨?_, ?_, ?_, ?_, ?_, ?_, ?_⟩
  · rw [step, ← h.settled]
    exact settled_of_comm enter_due s.counters s.tasks
  · rw [step]
    exact h.inside.cons name
  · exact List.nodup_cons.mpr ⟨new, h.once⟩
  · exact (UInt64.toNat_add ..).trans ((Nat.mod_eq_of_lt fits).trans (congrArg (· + 1) h.active))
  · exact List.forall_mem_cons.mpr ⟨trivial, h.saw⟩
  · exact List.mem_append_right _ (List.mem_singleton_self _)
  · have peak : (after es).counters.enter.peak = higher (after es).counters.peak s'.counters.active :=
      congrArg (fun a => higher (after es).counters.peak (a + 1)) same
    rw [step, peak]
    exact highest_append h.highest s'

theorem names_middle (c : Counters) (before behind : List Task) (t : Task) :
    (Shared.names ⟨c, before ++ t :: behind⟩).Perm (t.name?.toList ++ Shared.names ⟨c, before ++ behind⟩) := by
  have first : (before ++ t :: behind).Perm (t :: (before ++ behind)) := List.perm_middle
  refine (first.filterMap _).trans (.of_eq ?_)
  cases h : t.name? <;> simp [Shared.names, h]

/-- Only the guard of the worker who leaves goes. -/
theorem Shared.Step.names_of_leave {name : String} (h : s.Step (some (.leave name)) s') :
    s.names.Perm (name :: s'.names) := by
  cases h with
  | leave before behind => exact names_middle _ before behind (.guard name)
  | report he => exact absurd rfl he

theorem Follows.leave {before behind : List Task} {c : Counters} {name : String}
    (h : Follows es past ⟨c, before ++ .guard name :: behind⟩) :
    Follows (es ++ [.leave name]) (past ++ [⟨c.leave, before ++ behind⟩]) ⟨c.leave, before ++ behind⟩ := by
  have names : (Shared.names ⟨c, before ++ .guard name :: behind⟩).Perm (name :: Shared.names ⟨c, before ++ behind⟩) :=
    names_middle c before behind (.guard name)
  have isIn : (after es).inside.contains name = true := by
    rw [List.contains_eq_mem, decide_eq_true_iff, ← h.inside.mem_iff, names.mem_iff]
    exact List.mem_cons_self ..
  have step : after (es ++ [.leave name]) = ⟨(after es).counters.leave, (after es).inside.erase name⟩ := by
    rw [after_append, Watched.step, if_pos isIn]
  have active : c.active.toNat = (Shared.names ⟨c, before ++ behind⟩).length + 1 := h.active.trans names.length_eq
  have one : (1 : UInt64) ≤ c.active := UInt64.le_iff_toNat_le.mpr (active ▸ Nat.le_add_left ..)
  have down : c.leave.active.toNat = (Shared.names ⟨c, before ++ behind⟩).length := by
    rw [Counters.leave, UInt64.toNat_sub_of_le _ _ one, active]
    rfl
  refine ⟨?_, ?_, ?_, ?_, ?_, ?_, ?_⟩
  · rw [step, ← h.settled, settled_middle]
    exact settled_of_comm leave_due c (before ++ behind)
  · rw [step]
    have := (names.symm.trans h.inside).erase name
    rwa [List.erase_cons_head] at this
  · exact (List.nodup_cons.mp (names.nodup_iff.mp h.once)).2
  · exact down
  · exact fun t ht => h.saw t (((List.sublist_cons_self _ behind).append_left before).subset ht)
  · exact List.mem_append_right _ (List.mem_singleton_self _)
  · rw [step]
    refine highest_append_of_le h.highest (UInt64.le_trans (UInt64.le_iff_toNat_le.mpr ?_) (h.highest.1 _ h.now))
    show c.leave.active.toNat ≤ c.active.toNat
    rw [down, active]
    exact Nat.le_succ _

theorem Follows.report {e : Event} (h : Follows es past s) (he : e.addends ≠ []) :
    let s' : Shared := ⟨s.counters, .report e.addends :: s.tasks⟩
    Follows (es ++ [e]) (past ++ [s']) s' := by
  intro s'
  have step : after (es ++ [e]) = { after es with counters := e.addends.foldl add (after es).counters } := by
    rw [after_append, step_of_addends he]
  have settled : s'.settled = e.addends.foldl add s.settled := by
    rw [Shared.settled, List.flatMap_cons, foldl_due_perm List.perm_append_comm, List.foldl_append]
    exact foldl_due_map_add ..
  refine { h with settled := ?_, inside := ?_, saw := ?_, now := ?_, highest := ?_ }
  · rw [settled, h.settled, step]
  · rw [step]
    exact h.inside
  · exact List.forall_mem_cons.mpr ⟨trivial, h.saw⟩
  · exact List.mem_append_right _ (List.mem_singleton_self _)
  · rw [step, foldl_add_peak]
    exact highest_append_of_le h.highest (h.highest.1 s h.now)

theorem Follows.go {before behind : List Task} {c c' : Counters} {t t' : Task}
    (h : Follows es past ⟨c, before ++ t :: behind⟩) (ht : Task.Step c t c' t') :
    Follows es (past ++ [⟨c', before ++ t' :: behind⟩]) ⟨c', before ++ t' :: behind⟩ := by
  have here : t ∈ before ++ t :: behind := List.mem_append_right _ (List.mem_cons_self ..)
  refine h.silent ?_ ?_ ht.active fun x hx => ?_
  · rw [settled_middle, settled_middle, ht.dues (h.saw t here)]
  · simp only [Shared.names, List.filterMap_append, List.filterMap_cons, ht.name]
  · have others : x ∈ before ++ t :: behind → x.SawBelow c'.peak := fun hx => (h.saw x hx).mono ht.peak_le
    rcases List.mem_append.mp hx with hx | hx
    · exact others (List.mem_append_left _ hx)
    · rcases List.mem_cons.mp hx with rfl | hx
      · exact ht.sawBelow
      · exact others (List.mem_append_right _ (List.mem_cons_of_mem _ hx))

theorem Follows.reported {before behind : List Task} {c : Counters}
    (h : Follows es past ⟨c, before ++ .report [] :: behind⟩) :
    Follows es (past ++ [⟨c, before ++ behind⟩]) ⟨c, before ++ behind⟩ := by
  refine h.silent (settled_middle c before behind (.report [])).symm ?_ rfl fun x hx => h.saw x ?_
  · simp only [Shared.names, List.filterMap_append, List.filterMap_cons, Task.name?]
  · exact ((List.sublist_cons_self _ behind).append_left before).subset hx

/-- One instruction keeps it. -/
theorem Follows.step {e : Option Event} (h : Follows es past s) (hs : s.Step e s') :
    Follows (es ++ e.toList) (past ++ [s']) s' := by
  cases hs with
  | enter new room => exact h.enter new room
  | leave before behind => exact h.leave
  | report he => exact h.report he
  | go before behind ht => exact (List.append_nil es).symm ▸ h.go ht
  | reported before behind => exact (List.append_nil es).symm ▸ h.reported

end

/-! ## When no call is under way -/

theorem length_names (s : Shared) : s.names.length = s.guards.length + s.entering.length := by
  obtain ⟨c, tasks⟩ := s
  simp only [Shared.names, Shared.guards, Shared.entering]
  induction tasks with
  | nil => rfl
  | cons t tasks ih =>
    cases t <;> simp only [List.filterMap_cons, Task.name?, Task.guard?, Task.entering?, List.length_cons] <;> omega

/-- When nobody is about to be in, the peak is what it will be. -/
theorem settled_peak {s : Shared} (h : s.entering = []) : s.settled.peak = s.counters.peak := by
  obtain ⟨c, tasks⟩ := s
  simp only [Shared.settled, Shared.entering, List.filterMap_eq_nil_iff] at h ⊢
  induction tasks generalizing c with
  | nil => rfl
  | cons t tasks ih =>
    rw [List.flatMap_cons, List.foldl_append, ih _ fun t ht => h t (List.mem_cons_of_mem _ ht)]
    cases t with
    | look name now => cases h _ (List.mem_cons_self ..)
    | raise name now seen => cases h _ (List.mem_cons_self ..)
    | guard name => rfl
    | report rest => rw [Task.dues, foldl_due_map_add, foldl_add_peak]

/-- When nothing is still to be added, the counters of files are what they will be. -/
theorem settled_files {s : Shared} (h : s.pending = []) : ∃ peak, s.settled = { s.counters with peak := peak } := by
  obtain ⟨c, tasks⟩ := s
  simp only [Shared.settled, Shared.pending, List.flatMap_eq_nil_iff] at h ⊢
  induction tasks generalizing c with
  | nil => exact ⟨_, rfl⟩
  | cons t tasks ih =>
    rw [List.flatMap_cons, List.foldl_append]
    obtain ⟨peak, same⟩ := ih (t.dues.foldl due c) fun t ht => h t (List.mem_cons_of_mem _ ht)
    rw [same]
    have own := h t (List.mem_cons_self ..)
    cases t with
    | report rest =>
      obtain rfl : rest = [] := own
      exact ⟨_, rfl⟩
    | _ => exact ⟨_, rfl⟩

/-- With no call under way the counters are those of the calls one after another. -/
theorem Follows.counters_eq {es : List Event} {past : List Shared} {s : Shared} (h : Follows es past s)
    (entering : s.entering = []) (pending : s.pending = []) : s.counters = (after es).counters := by
  obtain ⟨peak, same⟩ := settled_files pending
  have top := settled_peak entering
  rw [same] at top
  obtain rfl : peak = s.counters.peak := top
  exact same.symm.trans h.settled

/-! ## Calls come to their end -/

open Relation (ReflTransGen)

/-- Instructions of calls that have begun. -/
abbrev Shared.Goes : Shared → Shared → Prop := ReflTransGen fun s s' => s.Step none s'

section
variable (before behind : List Task)

/-- A worker who goes on alone fails in one exchange at most. -/
theorem goes_raise (c : Counters) (name : String) (now seen : UInt64) :
    ∃ c', Shared.Goes ⟨c, before ++ .raise name now seen :: behind⟩ ⟨c', before ++ .guard name :: behind⟩ := by
  by_cases hlt : seen < now
  · have again : Shared.Step ⟨c, before ++ .raise name now seen :: behind⟩ none
        ⟨c, before ++ .raise name now c.peak :: behind⟩ := .go before behind (.again hlt)
    by_cases low : c.peak < now
    · exact ⟨_, .head again (.single (.go before behind (.exchange low)))⟩
    · exact ⟨_, .head again (.single (.go before behind (.enough low)))⟩
  · exact ⟨c, .single (.go before behind (.enough hlt))⟩

theorem goes_report (c : Counters) (rest : List Addend) :
    ∃ c', Shared.Goes ⟨c, before ++ .report rest :: behind⟩ ⟨c', before ++ behind⟩ := by
  induction rest generalizing c with
  | nil => exact ⟨c, .single (.reported before behind)⟩
  | cons x rest ih =>
    obtain ⟨c', goes⟩ := ih (c.add x)
    exact ⟨c', .head (.go before behind .add) goes⟩

theorem goes_task (c : Counters) (t : Task) :
    ∃ c', Shared.Goes ⟨c, before ++ t :: behind⟩ ⟨c', before ++ t.name?.toList.map Task.guard ++ behind⟩ := by
  cases t with
  | look name now =>
    obtain ⟨c', goes⟩ := goes_raise before behind c name now c.peak
    exact ⟨c', .head (.go before behind .look) (by simpa [Task.name?] using goes)⟩
  | raise name now seen => simpa [Task.name?] using goes_raise before behind c name now seen
  | guard name => exact ⟨c, by simpa [Task.name?] using ReflTransGen.refl⟩
  | report rest => simpa [Task.name?] using goes_report before behind c rest

end

theorem goes_tasks (before tasks : List Task) (c : Counters) :
    ∃ c', Shared.Goes ⟨c, before ++ tasks⟩ ⟨c', before ++ (tasks.filterMap Task.name?).map Task.guard⟩ := by
  induction tasks generalizing before c with
  | nil => exact ⟨c, .refl⟩
  | cons t tasks ih =>
    obtain ⟨c₁, first⟩ := goes_task before tasks c t
    obtain ⟨c₂, others⟩ := ih (before ++ t.name?.toList.map Task.guard) c₁
    refine ⟨c₂, first.trans ?_⟩
    have all : before ++ ((t :: tasks).filterMap Task.name?).map Task.guard =
        before ++ t.name?.toList.map Task.guard ++ (tasks.filterMap Task.name?).map Task.guard := by
      cases h : t.name? <;> simp [h]
    exact all ▸ others

/-- From every state the calls that have begun can end, without another call: nobody waits for anybody. -/
theorem comes_to_rest (s : Shared) : ∃ s', s.Goes s' ∧ s'.entering = [] ∧ s'.pending = [] ∧ s'.guards = s.names := by
  obtain ⟨c, goes⟩ := goes_tasks [] s.tasks s.counters
  refine ⟨_, goes, ?_, ?_, ?_⟩
  · simp [Shared.entering, Function.comp_def, Task.entering?]
  · refine List.flatMap_eq_nil_iff.mpr fun t ht => ?_
    obtain ⟨name, -, rfl⟩ := List.mem_map.mp ht
    rfl
  · simp [Shared.guards, Shared.names, Function.comp_def, Task.guard?]

/-! ## Every call can be made -/

/-- What can be called next: a worker who is in leaves, or another one comes in. -/
def Watched.Allows (w : Watched) : Event → Prop
  | .enter name => name ∉ w.inside ∧ w.inside.length < mostGuards
  | .leave name => name ∈ w.inside
  | .record .. | .fail => True

theorem guard_of_name {s : Shared} (h : s.entering = []) {name : String} (hn : name ∈ s.names) :
    Task.guard name ∈ s.tasks := by
  obtain ⟨t, ht, same⟩ := List.mem_filterMap.mp hn
  have idle : t.entering? = none := List.filterMap_eq_nil_iff.mp h t ht
  cases t with
  | look name' now => cases idle
  | raise name' now seen => cases idle
  | guard name' => exact Option.some.inj same ▸ ht
  | report rest => cases same

theorem Follows.exists_step {es : List Event} {past : List Shared} {s : Shared} (h : Follows es past s)
    (entering : s.entering = []) {e : Event} (allowed : (after es).Allows e) : ∃ s', s.Step (some e) s' := by
  cases e with
  | enter name =>
    obtain ⟨new, room⟩ := allowed
    exact ⟨_, .enter (mt h.inside.mem_iff.mp new) (h.inside.length_eq ▸ room)⟩
  | leave name =>
    have isOut : Task.guard name ∈ s.tasks := guard_of_name entering (h.inside.mem_iff.mpr allowed)
    obtain ⟨c, tasks⟩ := s
    obtain ⟨before, behind, rfl⟩ := List.append_of_mem isOut
    exact ⟨_, .leave before behind⟩
  | record size items => exact ⟨_, .report (List.cons_ne_nil _ _)⟩
  | fail => exact ⟨_, .report (List.cons_ne_nil _ _)⟩

end MarkerScan.Counters
