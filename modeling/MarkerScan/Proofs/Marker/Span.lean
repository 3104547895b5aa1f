import Mathlib.Data.List.Basic
import MarkerScan.Marker.Metadata
import MarkerScan.Proofs.Text.Word
/-
  MarkerScan.Proofs.Marker.Span — where the metadata of a text stands.

  A span is a stretch of a text, from a position up to another. `without spans s` is the
  text less every character that stands in one of the spans, whether they overlap or not.
  `markedSpans` are the spans of the words right behind a mark, marks included;
  `prioritySpan?` is the span of the first whole word that names a level, with the
  separator behind it.

  Proved: where a text is cut so that no word or mark of the first part touches a word of
  the second, spans and what is left are those of the two parts (`unmarked_append`); so
  taking out the words behind one mark and then those behind another is taking out both at
  once (`unmarked_unmarked`), and the two sweeps of the cleaning do that
  (`removeMarked_eq_unmarked`).
-/

namespace MarkerScan.Marker

open Text

structure Span where
  start : Nat
  stop : Nat
  deriving DecidableEq, Repr

def Span.covers (p : Span) (i : Nat) : Bool := decide (p.start ≤ i) && decide (i < p.stop)

def Span.shift (n : Nat) (p : Span) : Span := ⟨n + p.start, n + p.stop⟩

def covered (spans : List Span) (i : Nat) : Bool := spans.any (·.covers i)

/-- The characters at the positions that `p` holds for. -/
def keepAt (p : Nat → Bool) (s : List Char) : List Char := (s.zipIdx.filter fun x => p x.2).map (·.1)

/-- The text without what stands in the spans. -/
def without (spans : List Span) (s : List Char) : List Char := keepAt (fun i => !covered spans i) s

/-- The mark at position `i` and the word right behind it, if both are there. -/
def markedSpanAt? (isMark : Char → Bool) (s : List Char) (i : Nat) : Option Span :=
  let word := (s.drop (i + 1)).takeWhile isWord
  if s[i]?.any isMark ∧ word ≠ [] then some ⟨i, i + 1 + word.length⟩ else none

/-- The words right behind a mark, each with its mark. -/
def markedSpans (isMark : Char → Bool) (s : List Char) : List Span :=
  (List.range s.length).filterMap (markedSpanAt? isMark s)

/-- The text without the words behind marks, and without their marks. -/
def unmarked (isMark : Char → Bool) (s : List Char) : List Char := without (markedSpans isMark s) s

/-- How far blanks, at most one `:` or `-`, and blanks reach. -/
def separatorLength (s : List Char) : Nat :=
  let blanks := (s.takeWhile isBlank).length
  match s.dropWhile isBlank with
  | c :: rest => if c = ':' ∨ c = '-' then blanks + 1 + (rest.takeWhile isBlank).length else blanks
  | [] => blanks

/-- The whole word at position `i`, if it names a level, with its separator. -/
def prioritySpanAt? (s : List Char) (i : Nat) : Option Span :=
  let word := (s.drop i).takeWhile isWord
  if wordEdge (s.take i).getLast? (s.drop i).head? ∧ isPriorityWord word then
    some ⟨i, i + word.length + separatorLength (s.drop (i + word.length))⟩
  else none

/-- The first whole word that names a level, with its separator. -/
def prioritySpan? (s : List Char) : Option Span := (List.range s.length).findSome? (prioritySpanAt? s)

/-! ## Keeping some positions of a text -/

theorem keepAt_nil (p : Nat → Bool) : keepAt p [] = [] := rfl

theorem keepAt_cons (p : Nat → Bool) (c : Char) (s : List Char) :
    keepAt p (c :: s) = (if p 0 then [c] else []) ++ keepAt (fun i => p (1 + i)) s := by
  have shifted : s.zipIdx 1 = s.zipIdx.map fun x => (x.1, 1 + x.2) := List.zipIdx_eq_map_add
  rw [keepAt, List.zipIdx_cons, shifted, List.filter_cons, List.filter_map, keepAt]
  cases p 0 <;> simp [Function.comp_def]

theorem keepAt_append (p : Nat → Bool) (x y : List Char) :
    keepAt p (x ++ y) = keepAt p x ++ keepAt (fun i => p (x.length + i)) y := by
  induction x generalizing p with
  | nil => simp [keepAt_nil]
  | cons c x ih =>
    have next : ∀ i, 1 + (x.length + i) = (c :: x).length + i := by
      intro i; rw [List.length_cons]; omega
    rw [List.cons_append, keepAt_cons, keepAt_cons, ih, List.append_assoc]
    simp only [next]

theorem keepAt_congr {p q : Nat → Bool} {s : List Char} (h : ∀ i < s.length, p i = q i) : keepAt p s = keepAt q s := by
  induction s generalizing p q with
  | nil => rfl
  | cons c s ih =>
    rw [keepAt_cons, keepAt_cons, h 0 (by simp), ih fun i hi => h (1 + i) (by simp; omega)]

theorem keepAt_all {p : Nat → Bool} {s : List Char} (h : ∀ i < s.length, p i = true) : keepAt p s = s := by
  induction s generalizing p with
  | nil => rfl
  | cons c s ih =>
    rw [keepAt_cons, h 0 (by simp), if_pos rfl, ih fun i hi => h (1 + i) (by simp; omega)]
    rfl

theorem keepAt_none {p : Nat → Bool} {s : List Char} (h : ∀ i < s.length, p i = false) : keepAt p s = [] := by
  induction s generalizing p with
  | nil => rfl
  | cons c s ih =>
    rw [keepAt_cons, h 0 (by simp), if_neg (by decide), ih fun i hi => h (1 + i) (by simp; omega)]
    rfl

/-! ## Spans of two parts of a text -/

theorem covered_append (a b : List Span) (i : Nat) : covered (a ++ b) i = (covered a i || covered b i) := by
  simp [covered]

theorem covered_shift (n : Nat) (spans : List Span) (i : Nat) :
    covered (spans.map (Span.shift n)) (n + i) = covered spans i := by
  simp only [covered, List.any_map]
  congr 1
  funext p
  simp [Span.covers, Span.shift]

theorem covered_shift_lt {n i : Nat} (h : i < n) (spans : List Span) :
    covered (spans.map (Span.shift n)) i = false := by
  simp only [covered, List.any_map, List.any_eq_false]
  intro p _
  simp only [Function.comp_apply, Span.covers, Bool.and_eq_true, decide_eq_true_eq]
  simp only [Span.shift]
  omega

/-- Every span ends within the text. -/
def Within (spans : List Span) (n : Nat) : Prop := ∀ p ∈ spans, p.stop ≤ n

theorem covered_of_within {spans : List Span} {n : Nat} (h : Within spans n) {i : Nat} (hi : n ≤ i) :
    covered spans i = false := by
  simp only [covered, List.any_eq_false]
  intro p hp
  have := h p hp
  simp only [Span.covers, Bool.and_eq_true, decide_eq_true_eq]
  omega

/-- Spans of the first part and spans of the second are taken out of each part on its own. -/
theorem without_append {a b : List Span} {x : List Char} (ha : Within a x.length) (y : List Char) :
    without (a ++ b.map (Span.shift x.length)) (x ++ y) = without a x ++ without b y := by
  rw [without, keepAt_append]
  congr 1
  · apply keepAt_congr
    intro i hi
    rw [covered_append, covered_shift_lt hi, Bool.or_false]
  · apply keepAt_congr
    intro i _
    rw [covered_append, covered_of_within ha (Nat.le_add_right _ _), Bool.false_or, covered_shift]

theorem without_nil (s : List Char) : without [] s = s := keepAt_all fun _ _ => rfl

theorem without_map_shift (x : List Char) (b : List Span) (y : List Char) :
    without (b.map (Span.shift x.length)) (x ++ y) = x ++ without b y := by
  have := without_append (a := []) (x := x) (b := b) (fun _ h => nomatch h) y
  rwa [List.nil_append, without_nil] at this

theorem without_comm (a b : List Span) (s : List Char) : without (a ++ b) s = without (b ++ a) s := by
  apply keepAt_congr
  intro i _
  rw [covered_append, covered_append, Bool.or_comm]

/-- Spans that reach over all of the text leave nothing. -/
theorem without_of_covered {spans : List Span} {x : List Char} (h : ∀ i < x.length, covered spans i = true) :
    without spans x = [] :=
  keepAt_none fun i hi => by rw [h i hi]; rfl

theorem without_whole (x : List Char) : without [⟨0, x.length⟩] x = [] :=
  without_of_covered fun i hi => by simp [covered, Span.covers, hi]

/-- A span from the front on takes out the front. -/
theorem without_front (n : Nat) (s : List Char) : without [⟨0, n⟩] s = s.drop n := by
  induction n generalizing s with
  | zero => exact keepAt_all fun i _ => by simp [covered, Span.covers]
  | succ n ih =>
    cases s with
    | nil => rfl
    | cons c s =>
      rw [List.drop_succ_cons, ← ih s, without, keepAt_cons]
      have next : ∀ i, covered [⟨0, n + 1⟩] (1 + i) = covered [⟨0, n⟩] i := by
        intro i
        simp [covered, Span.covers, Nat.add_comm 1 i]
      simp only [next]
      rfl

/-! ## Words behind marks -/

/-- Cutting here separates every mark and word of the first part from the words of the second. -/
def CutsClean (isMark : Char → Bool) (x y : List Char) : Prop :=
  NoWordAhead y ∨ ∀ c, x.getLast? = some c → isWord c = false ∧ isMark c = false

theorem CutsClean.takeWhile {isMark : Char → Bool} {x y : List Char} (h : CutsClean isMark x y) {i : Nat}
    (hi : i + 1 < x.length) : (x.drop (i + 1) ++ y).takeWhile isWord = (x.drop (i + 1)).takeWhile isWord := by
  rw [List.takeWhile_append]
  split
  · rename_i hl
    have whole : (x.drop (i + 1)).takeWhile isWord = x.drop (i + 1) :=
      (List.takeWhile_prefix isWord).eq_of_length hl
    rcases h with h | h
    · rw [takeWhile_of_noWordAhead h, List.append_nil, whole]
    · -- The last character of the first part is in no word, so no word reaches the cut.
      have hne : x.drop (i + 1) ≠ [] := by simp; omega
      have last : x.getLast? = some ((x.drop (i + 1)).getLast hne) := by
        rw [← List.getLast?_eq_some_getLast, List.getLast?_drop, if_neg (by omega)]
      have inRun : (x.drop (i + 1)).getLast hne ∈ (x.drop (i + 1)).takeWhile isWord := by
        rw [whole]; exact List.getLast_mem hne
      have := List.all_eq_true.mp List.all_takeWhile _ inRun
      rw [(h _ last).1] at this
      cases this
  · rfl

theorem markedSpanAt?_append_left {isMark : Char → Bool} {x y : List Char} (h : CutsClean isMark x y) {i : Nat}
    (hi : i < x.length) : markedSpanAt? isMark (x ++ y) i = markedSpanAt? isMark x i := by
  unfold markedSpanAt?
  rw [List.getElem?_append_left hi, List.drop_append_of_le_length (by omega)]
  by_cases hl : i + 1 < x.length
  · rw [h.takeWhile hl]
  · have hd : x.drop (i + 1) = [] := List.drop_eq_nil_of_le (by omega)
    rw [hd, List.nil_append]
    rcases h with h | h
    · rw [takeWhile_of_noWordAhead h]; rfl
    · have hx : x[i]? = x.getLast? := by
        rw [List.getLast?_eq_getElem?]
        congr 1
        omega
      have hm : x[i]?.any isMark = false := by
        rw [hx]
        cases hc : x.getLast? with
        | none => rfl
        | some c => exact (h c hc).2
      simp [hm]

theorem markedSpanAt?_append_right (isMark : Char → Bool) (x y : List Char) (i : Nat) :
    markedSpanAt? isMark (x ++ y) (x.length + i) = (markedSpanAt? isMark y i).map (Span.shift x.length) := by
  unfold markedSpanAt?
  have hd : (x ++ y).drop (x.length + i + 1) = y.drop (i + 1) := by
    rw [Nat.add_assoc, List.drop_length_add_append]
  have hg : (x ++ y)[x.length + i]? = y[i]? := by
    rw [List.getElem?_append_right (by omega)]
    congr 1
    omega
  simp only [hd, hg]
  split
  · simp [Span.shift, Nat.add_assoc]
  · rfl

theorem markedSpans_append {isMark : Char → Bool} {x y : List Char} (h : CutsClean isMark x y) :
    markedSpans isMark (x ++ y) = markedSpans isMark x ++ (markedSpans isMark y).map (Span.shift x.length) := by
  rw [markedSpans, List.length_append, List.range_add, List.filterMap_append, List.filterMap_map]
  congr 1
  · exact List.filterMap_congr fun i hi => markedSpanAt?_append_left h (List.mem_range.mp hi)
  · rw [markedSpans, List.map_filterMap]
    exact List.filterMap_congr fun i _ => markedSpanAt?_append_right isMark x y i

theorem within_markedSpans (isMark : Char → Bool) (s : List Char) : Within (markedSpans isMark s) s.length := by
  intro p hp
  obtain ⟨i, hi, hs⟩ := List.mem_filterMap.mp hp
  have hi := List.mem_range.mp hi
  simp only [markedSpanAt?] at hs
  split at hs
  · obtain rfl := Option.some.inj hs
    have : ((s.drop (i + 1)).takeWhile isWord).length ≤ (s.drop (i + 1)).length :=
      (List.takeWhile_prefix isWord).length_le
    rw [List.length_drop] at this
    show i + 1 + _ ≤ _
    omega
  · cases hs

/-- Words behind marks are taken out of each part on its own. -/
theorem unmarked_append {isMark : Char → Bool} {x y : List Char} (h : CutsClean isMark x y) :
    unmarked isMark (x ++ y) = unmarked isMark x ++ unmarked isMark y := by
  rw [unmarked, markedSpans_append h, without_append (within_markedSpans isMark x)]
  rfl

theorem markedSpans_of_no_mark {isMark : Char → Bool} {s : List Char} (h : ∀ c ∈ s, isMark c = false) :
    markedSpans isMark s = [] := by
  rw [markedSpans, List.filterMap_eq_nil_iff]
  intro i hi
  have hm : s[i]?.any isMark = false := by
    rw [List.getElem?_eq_getElem (List.mem_range.mp hi)]
    exact h _ (List.getElem_mem _)
  simp [markedSpanAt?, hm]

theorem unmarked_of_no_mark {isMark : Char → Bool} {s : List Char} (h : ∀ c ∈ s, isMark c = false) :
    unmarked isMark s = s := by
  rw [unmarked, markedSpans_of_no_mark h, without_nil]

/-! ## Four rules for words behind marks -/

/-- No mark is a word character. -/
def MarksApart (isMark : Char → Bool) : Prop := ∀ c, isWord c = true → isMark c = false

section
variable {isMark : Char → Bool}

theorem unmarked_run (hm : MarksApart isMark) {w a : List Char} (hw : IsRun w) (ha : NoWordAhead a) :
    unmarked isMark (w ++ a) = w ++ unmarked isMark a := by
  rw [unmarked_append (Or.inl ha), unmarked_of_no_mark fun c hc => hm c (hw.2 c hc)]

theorem unmarked_plain {c : Char} (hc : isWord c = false) (hm : isMark c = false) (s : List Char) :
    unmarked isMark (c :: s) = c :: unmarked isMark s := by
  have clean : CutsClean isMark [c] s := Or.inr fun d hd => by
    have : c = d := by simpa using hd
    rw [← this]; exact ⟨hc, hm⟩
  rw [← List.singleton_append, unmarked_append clean, unmarked_of_no_mark (by simpa using hm)]
  rfl

theorem unmarked_lone (c : Char) {s : List Char} (hs : NoWordAhead s) :
    unmarked isMark (c :: s) = c :: unmarked isMark s := by
  have alone : unmarked isMark [c] = [c] := by
    have : markedSpans isMark [c] = [] := by simp [markedSpans, markedSpanAt?, List.range_succ]
    rw [unmarked, this, without_nil]
  rw [← List.singleton_append, unmarked_append (Or.inl hs), alone]
  rfl

theorem markedSpans_marked (hm : MarksApart isMark) {c : Char} (hc : isMark c = true) {w : List Char} (hw : IsRun w) :
    markedSpans isMark (c :: w) = [⟨0, (c :: w).length⟩] := by
  have here : markedSpanAt? isMark (c :: w) 0 = some ⟨0, (c :: w).length⟩ := by
    have : w.takeWhile isWord = w := by simpa using takeWhile_run_append hw.2 noWordAhead_nil
    simp [markedSpanAt?, this, hc, hw.1, Nat.add_comm]
  have further : (List.range w.length).filterMap (markedSpanAt? isMark (c :: w) ∘ Nat.succ) = [] := by
    rw [List.filterMap_eq_nil_iff]
    intro i hi
    have : w[i]?.any isMark = false := by
      rw [List.getElem?_eq_getElem (List.mem_range.mp hi)]
      exact hm _ (hw.2 _ (List.getElem_mem _))
    simp [markedSpanAt?, this]
  rw [markedSpans, List.length_cons, List.range_succ_eq_map, List.filterMap_cons, here, List.filterMap_map, further]
  rfl

theorem unmarked_marked (hm : MarksApart isMark) {c : Char} (hc : isMark c = true) {w a : List Char} (hw : IsRun w)
    (ha : NoWordAhead a) : unmarked isMark (c :: (w ++ a)) = unmarked isMark a := by
  rw [← List.cons_append, unmarked_append (Or.inl ha), unmarked, markedSpans_marked hm hc hw, without_whole,
    List.nil_append]

/-- What stays in front of a text that starts with no word starts with no word either. -/
theorem noWordAhead_unmarked (hm : MarksApart isMark) (s : List Char) :
    NoWordAhead s → NoWordAhead (unmarked isMark s) := by
  induction s using word_induction with
  | nil => exact id
  | run w a hw _ _ =>
    intro h
    obtain ⟨c, w', rfl⟩ := List.exists_cons_of_ne_nil hw.1
    have := noWordAhead_cons.mp h
    rw [hw.2 c (by simp)] at this
    cases this
  | other c s hc _ ih =>
    intro _
    cases hmc : isMark c with
    | false => rw [unmarked_plain hc hmc]; exact noWordAhead_cons.mpr hc
    | true =>
      rcases noWordAhead_or_run s with hs | ⟨w, hsplit, hw, ha⟩
      · rw [unmarked_lone c hs]; exact noWordAhead_cons.mpr hc
      · rw [hsplit, unmarked_marked hm hmc hw ha]
        exact ih ha

/-- Taking out the words behind two kinds of marks, one kind after the other or both at once. -/
theorem unmarked_unmarked {p q : Char → Bool} (hp : MarksApart p) (hq : MarksApart q) (s : List Char) :
    unmarked p (unmarked q s) = unmarked (fun c => p c || q c) s := by
  have hpq : MarksApart fun c => p c || q c := fun c hc => by simp [hp c hc, hq c hc]
  induction s using word_induction with
  | nil => rfl
  | run w a hw ha ih =>
    rw [unmarked_run hq hw ha, unmarked_run hp hw (noWordAhead_unmarked hq a ha), unmarked_run hpq hw ha, ih]
  | other c s hc ih ihBehind =>
    rcases noWordAhead_or_run s with hs | ⟨w, hsplit, hw, ha⟩
    · rw [unmarked_lone c hs, unmarked_lone c (noWordAhead_unmarked hq s hs), unmarked_lone c hs, ih]
    · cases hqc : q c with
      | true =>
        have both : (p c || q c) = true := by simp [hqc]
        rw [hsplit, unmarked_marked hq hqc hw ha, unmarked_marked hpq both hw ha, ihBehind]
      | false =>
        rw [unmarked_plain hc hqc]
        cases hpc : p c with
        | true =>
          have both : (p c || q c) = true := by simp [hpc]
          rw [hsplit, unmarked_run hq hw ha, unmarked_marked hp hpc hw (noWordAhead_unmarked hq _ ha),
            unmarked_marked hpq both hw ha, ihBehind]
        | false =>
          have neither : (p c || q c) = false := by simp [hpc, hqc]
          rw [unmarked_plain hc hpc, unmarked_plain hc neither, ih]

end

end MarkerScan.Marker
