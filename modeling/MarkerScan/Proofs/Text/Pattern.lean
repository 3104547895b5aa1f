import Mathlib.Data.List.Basic
import MarkerScan.Text.Character
import MarkerScan.Text.Pattern
/-
  MarkerScan.Proofs.Text.Pattern — the match of a pattern, followed by what comes after it.

  `p.first k s` is the first of the ways of `p` from `s` that `k` can go on from. It takes a
  sequence apart (`first_seq`), so a match is computed from the end of a pattern to its
  front. For `many` there are three cases: what follows cannot start with a character of
  the class, and then all of them are read (`first_many_of_blocked`); it can go on from
  anywhere, and then all are read too (`first_many_of_total`); or it is tried from the
  furthest place back to the nearest (`first_many_blanks`, with `fromFurthest`).
-/

namespace MarkerScan.Text

variable {β γ : Type}

theorem findSome?_flatMap {α α' : Type} (f : α → List α') (k : α' → Option β) (l : List α) :
    (l.flatMap f).findSome? k = l.findSome? fun a => (f a).findSome? k := by
  induction l with
  | nil => rfl
  | cons a l ih =>
    rw [List.flatMap_cons, List.findSome?_append, List.findSome?_cons, ih]
    cases (f a).findSome? k <;> rfl

theorem findSome?_congr {α : Type} {f g : α → Option β} {l : List α} (h : ∀ a ∈ l, f a = g a) :
    l.findSome? f = l.findSome? g := by
  rw [← List.head?_filterMap, ← List.head?_filterMap, List.filterMap_congr h]

namespace Pattern

/-- The first way of `p` from `s` that `k` can go on from. -/
def first (p : Pattern) (k : Reading → Option β) (s : Reading) : Option β := (p.ways s).findSome? k

variable {k : Reading → Option β} {s : Reading}

theorem captures?_eq_first (p : Pattern) (text : List Char) :
    p.captures? text = p.first (fun t => some t.groups) ⟨[], text, []⟩ := by
  unfold captures? first
  cases p.ways ⟨[], text, []⟩ <;> rfl

@[simp] theorem first_empty : empty.first k s = k s := by simp [first]

theorem first_seq (p q : Pattern) : (seq p q).first k s = p.first (q.first k) s :=
  findSome?_flatMap q.ways k (p.ways s)

theorem first_alt (p q : Pattern) : (alt p q).first k s = (p.first k s).or (q.first k s) :=
  List.findSome?_append

theorem first_group (p : Pattern) : (group p).first k s = p.first (fun t => k (s.remember t)) s := by
  simp only [first, ways_group, List.findSome?_map]
  rfl

theorem first_one_cons (fits : Char → Bool) {b : List Char} {c : Char} {r : List Char} {g : List (List Char)} :
    (one fits).first k ⟨b, c :: r, g⟩ = if fits c then k ⟨c :: b, r, g⟩ else none := by
  cases h : fits c <;> simp [first, h]

theorem first_edge : edge.first k s = if wordEdge s.before.head? s.rest.head? then k s else none := by
  cases h : wordEdge s.before.head? s.rest.head? <;> simp [first, h]

theorem first_finish : finish.first k s = if s.rest.isEmpty then k s else none := by
  cases h : s.rest.isEmpty <;> simp [first, h]

theorem first_anyOf (ps : List Pattern) : (anyOf ps).first k s = ps.findSome? fun p => p.first k s := by
  induction ps with
  | nil =>
    obtain ⟨b, r, g⟩ := s
    cases r <;> rfl
  | cons p ps ih =>
    show (alt p (anyOf ps)).first k s = _
    rw [first_alt, ih, List.findSome?_cons]
    cases p.first k s <;> rfl

/-! ## Runs of a class -/

theorem first_many_nil (fits : Char → Bool) {b : List Char} {g : List (List Char)} :
    (many fits).first k ⟨b, [], g⟩ = k ⟨b, [], g⟩ := by
  simp [first]

theorem first_many_cons (fits : Char → Bool) {b : List Char} {c : Char} {r : List Char} {g : List (List Char)} :
    (many fits).first k ⟨b, c :: r, g⟩ =
      (if fits c then (many fits).first k ⟨c :: b, r, g⟩ else none).or (k ⟨b, c :: r, g⟩) := by
  cases h : fits c <;> simp [first, h]

theorem first_few_nil (fits : Char → Bool) {b : List Char} {g : List (List Char)} :
    (few fits).first k ⟨b, [], g⟩ = k ⟨b, [], g⟩ := by
  simp [first]

theorem first_few_cons (fits : Char → Bool) {b : List Char} {c : Char} {r : List Char} {g : List (List Char)} :
    (few fits).first k ⟨b, c :: r, g⟩ =
      (k ⟨b, c :: r, g⟩).or (if fits c then (few fits).first k ⟨c :: b, r, g⟩ else none) := by
  simp only [first, ways_few, shortest_cons, List.findSome?_cons]
  cases h : fits c <;> cases k ⟨b, c :: r, g⟩ <;> simp

/-- The reading behind all characters of the class. -/
def behind (fits : Char → Bool) (s : Reading) : Reading :=
  ⟨(s.rest.takeWhile fits).reverse ++ s.before, s.rest.dropWhile fits, s.groups⟩

theorem behind_cons {fits : Char → Bool} {b : List Char} {c : Char} {r : List Char} {g : List (List Char)}
    (h : fits c = true) : behind fits ⟨b, c :: r, g⟩ = behind fits ⟨c :: b, r, g⟩ := by
  simp [behind, h]

theorem behind_cons_of_not {fits : Char → Bool} {b : List Char} {c : Char} {r : List Char} {g : List (List Char)}
    (h : fits c = false) : behind fits ⟨b, c :: r, g⟩ = ⟨b, c :: r, g⟩ := by
  simp [behind, h]

theorem first_many_of_blocked {fits : Char → Bool}
    (hk : ∀ b c r g, fits c = true → k ⟨b, c :: r, g⟩ = none) : (many fits).first k s = k (behind fits s) := by
  obtain ⟨b, r, g⟩ := s
  induction r generalizing b with
  | nil => rw [first_many_nil]; rfl
  | cons c r ih =>
    rw [first_many_cons]
    cases h : fits c with
    | true => rw [if_pos rfl, ih, hk b c r g h, Option.or_none, behind_cons h]
    | false => rw [if_neg (by decide), Option.none_or, behind_cons_of_not h]

theorem first_many_of_total {fits : Char → Bool} (hk : ∀ t, (k t).isSome = true) :
    (many fits).first k s = k (behind fits s) := by
  obtain ⟨b, r, g⟩ := s
  induction r generalizing b with
  | nil => rw [first_many_nil]; rfl
  | cons c r ih =>
    rw [first_many_cons]
    cases h : fits c with
    | true =>
      rw [if_pos rfl, ih, Option.or_of_isSome (hk _), behind_cons h]
    | false => rw [if_neg (by decide), Option.none_or, behind_cons_of_not h]

/-! ## Starts tried from the furthest one back -/

/-- What `g` gives from the furthest of the first `n + 1` places of `s` from which it gives something. -/
def fromFurthest (g : List Char → Option β) (s : List Char) : Nat → Option β
  | 0 => g s
  | n + 1 => (g (s.drop (n + 1))).or (fromFurthest g s n)

variable {g : List Char → Option β}

theorem fromFurthest_cons (c : Char) (s : List Char) (n : Nat) :
    fromFurthest g (c :: s) (n + 1) = (fromFurthest g s n).or (g (c :: s)) := by
  induction n with
  | zero => rfl
  | succ n ih =>
    show (g (s.drop (n + 1))).or (fromFurthest g (c :: s) (n + 1)) = _
    rw [ih, ← Option.or_assoc]
    rfl

theorem fromFurthest_none_of_le {s : List Char} {n m : Nat} (hm : m ≤ n) (h : fromFurthest g s n = none) :
    fromFurthest g s m = none := by
  induction n with
  | zero => rw [Nat.le_zero.mp hm]; exact h
  | succ n ih =>
    have h' : g (s.drop (n + 1)) = none ∧ fromFurthest g s n = none := by simpa [fromFurthest] using h
    by_cases e : m = n + 1
    · rw [e]; exact h
    · exact ih (by omega) h'.2

theorem fromFurthest_map (h : β → γ) (s : List Char) (n : Nat) :
    fromFurthest (fun r => (g r).map h) s n = (fromFurthest g s n).map h := by
  induction n with
  | zero => rfl
  | succ n ih =>
    simp only [fromFurthest, ih]
    cases g (s.drop (n + 1)) <;> rfl

/-- What follows blanks is tried behind all of them first, and behind none of them last. -/
theorem first_many_blanks {b r : List Char} {groups : List (List Char)}
    (hk : ∀ b r, k ⟨b, r, groups⟩ = g r) :
    (many isBlank).first k ⟨b, r, groups⟩ = fromFurthest g r (r.takeWhile isBlank).length := by
  induction r generalizing b with
  | nil => rw [first_many_nil, hk]; rfl
  | cons c r ih =>
    rw [first_many_cons, hk, List.takeWhile_cons]
    cases h : isBlank c with
    | true => rw [if_pos rfl, ih, if_pos rfl, List.length_cons, fromFurthest_cons]
    | false => rw [if_neg (by decide), Option.none_or, if_neg (by decide)]; rfl

end Pattern

end MarkerScan.Text
