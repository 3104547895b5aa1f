import MarkerScan.Marker.Line
import MarkerScan.Proofs.Marker.Span
import MarkerScan.Proofs.Text.Blank
/-
  MarkerScan.Proofs.Marker.Cleaning — what cleaning a body takes out, and what it leaves.

  Proved:
  - `removeMarked_eq_unmarked` / `removePriority_eq_without`: each sweep takes out exactly
    the spans of its words.
  - `prioritySpan?_parts`: the first word that names a level is a longest word, and nothing
    behind it but its separator goes with it.
  - `filter_tidy`: collapsing, dropping the colon and trimming keep every other character
    that is not blank, in order.
  - `tidy_without_tokenSpans_iff`: the sweeps, one after the other, leave what taking out all
    spans of the body at once leaves, exactly when the first priority word does not stand
    right behind an `@` or a `#`.
  - `line?_cleans`: so for the content of every recognised line.
-/

namespace MarkerScan.Marker

open Text

/-- What makes the word behind it an assignee or a tag. -/
def isMark (c : Char) : Bool := c == '#' || c == '@'

/-- The spans of the first priority word, with its separator, and of every assignee and tag of a text. -/
def tokenSpans (s : List Char) : List Span := (prioritySpan? s).toList ++ markedSpans isMark s

/-- A text with blanks collapsed, without a colon at its front and trimmed. -/
def tidy (s : List Char) : List Char := trim (dropColon (collapse s))

/-- The first priority word is itself the word behind a mark. -/
def priorityBehindMark (s : List Char) : Bool :=
  (prioritySpan? s).any fun p => (s.take p.start).getLast?.any isMark

/-- Without a colon at the very front. -/
def dropOneColon : List Char → List Char
  | ':' :: s => s
  | s => s

/-! ## Sweeping out the words behind one mark -/

section
variable {mark : Char}

theorem foldr_sweep_of_noWordAhead (mark : Char) {a : List Char} (ha : NoWordAhead a) :
    a.foldr (sweep mark) ⟨false, [], []⟩ = ⟨false, removeMarked mark a, removeMarked mark a⟩ := by
  cases a with
  | nil => rfl
  | cons c a => simp [removeMarked, sweep, noWordAhead_cons.mp ha]

theorem foldr_sweep_run {w a : List Char} (hw : IsRun w) (ha : NoWordAhead a) :
    (w ++ a).foldr (sweep mark) ⟨false, [], []⟩ = ⟨true, w ++ removeMarked mark a, removeMarked mark a⟩ := by
  obtain ⟨hne, hw⟩ := hw
  induction w with
  | nil => exact absurd rfl hne
  | cons c w ih =>
    have hc : isWord c = true := hw c (by simp)
    rw [List.cons_append, List.foldr_cons]
    by_cases hw' : w = []
    · subst hw'
      rw [List.nil_append, foldr_sweep_of_noWordAhead mark ha, sweep, if_pos hc]
      rfl
    · rw [ih hw' fun d hd => hw d (List.mem_cons_of_mem _ hd), sweep, if_pos hc]
      rfl

theorem removeMarked_run {w a : List Char} (hw : IsRun w) (ha : NoWordAhead a) :
    removeMarked mark (w ++ a) = w ++ removeMarked mark a := by
  rw [removeMarked, foldr_sweep_run hw ha]

theorem removeMarked_plain {c : Char} (hc : isWord c = false) (hm : c ≠ mark) (s : List Char) :
    removeMarked mark (c :: s) = c :: removeMarked mark s := by
  simp [removeMarked, sweep, hc, hm]

theorem removeMarked_lone {c : Char} (hc : isWord c = false) {s : List Char} (hs : NoWordAhead s) :
    removeMarked mark (c :: s) = c :: removeMarked mark s := by
  rw [removeMarked, List.foldr_cons, foldr_sweep_of_noWordAhead mark hs]
  simp [sweep, hc]

theorem removeMarked_marked (hm : isWord mark = false) {w a : List Char} (hw : IsRun w) (ha : NoWordAhead a) :
    removeMarked mark (mark :: (w ++ a)) = removeMarked mark a := by
  rw [removeMarked, List.foldr_cons, foldr_sweep_run hw ha]
  simp [sweep, hm]

theorem marksApart_beq (hm : isWord mark = false) : MarksApart (· == mark) := by
  intro c hc
  have : c ≠ mark := fun h => by rw [h, hm] at hc; cases hc
  simpa using this

theorem removeMarked_eq_unmarked (hm : isWord mark = false) (s : List Char) :
    removeMarked mark s = unmarked (· == mark) s := by
  have apart := marksApart_beq hm
  induction s using word_induction with
  | nil => rfl
  | run w a hw ha ih => rw [removeMarked_run hw ha, unmarked_run apart hw ha, ih]
  | other c s hc ih ihBehind =>
    rcases noWordAhead_or_run s with hs | ⟨w, hsplit, hw, ha⟩
    · rw [removeMarked_lone hc hs, unmarked_lone c hs, ih]
    · by_cases hcm : c = mark
      · subst hcm
        rw [hsplit, removeMarked_marked hm hw ha, unmarked_marked apart (beq_self_eq_true c) hw ha, ihBehind]
      · rw [removeMarked_plain hc hcm, unmarked_plain hc (by simpa using hcm), ih]

end

/-! ## Sweeping out the first priority word -/

theorem isPriorityWord_nil : isPriorityWord [] = false := by decide

theorem isWord_of_toUpper {c : Char} (h : isWord c.toUpper = true) : isWord c = true := by
  by_cases hc : 'a'.val ≤ c.val ∧ c.val ≤ 'z'.val
  · have lower : c.isLower = true := (Bool.and_eq_true _ _).mpr ⟨decide_eq_true hc.1, decide_eq_true hc.2⟩
    show (((c.isUpper || c.isLower) || c.isDigit) || c == '_') = true
    rw [lower, Bool.or_true, Bool.true_or, Bool.true_or]
  · have same : c.toUpper = c := dif_neg hc
    rwa [same] at h

/-- The words that name a level are made of word characters. -/
theorem isWord_of_isPriorityWord {w : List Char} (h : isPriorityWord w = true) : ∀ c ∈ w, isWord c = true := by
  obtain ⟨p, hp⟩ := Option.isSome_iff_exists.mp h
  obtain ⟨before, after, ht, -⟩ := List.lookup_eq_some_iff.mp hp
  have named : (asciiUpper w, p) ∈ Priority.tokens := by rw [ht]; simp
  have capitals : (Priority.tokens.all fun t => t.1.all isWord) = true := by decide
  have spelled := List.all_eq_true.mp (List.all_eq_true.mp capitals _ named)
  intro c hc
  exact isWord_of_toUpper (spelled _ (List.mem_map_of_mem hc))

theorem isPriorityWord_of_not_word {c : Char} (hc : isWord c = false) (w : List Char) :
    isPriorityWord (c :: w) = false := by
  cases h : isPriorityWord (c :: w) with
  | false => rfl
  | true => rw [isWord_of_isPriorityWord h c (by simp)] at hc; cases hc

theorem runs_cons (c : Char) (s : List Char) : ∃ run rest, runs (c :: s) = (c :: run) :: rest := by
  rw [runs, List.foldr_cons]
  unfold addToRuns
  split
  · split
    · exact ⟨_, _, rfl⟩
    · exact ⟨_, _, rfl⟩
  · exact ⟨_, _, rfl⟩

theorem runs_run {w a : List Char} (hw : IsRun w) (ha : NoWordAhead a) : runs (w ++ a) = w :: runs a := by
  obtain ⟨hne, hw⟩ := hw
  induction w with
  | nil => exact absurd rfl hne
  | cons c w ih =>
    have hc : isWord c = true := hw c (by simp)
    by_cases hw' : w = []
    · subst hw'
      cases a with
      | nil => rfl
      | cons d a =>
        obtain ⟨run, rest, hr⟩ := runs_cons d a
        show addToRuns c (runs (d :: a)) = _
        rw [hr, addToRuns, hc, noWordAhead_cons.mp ha, if_neg (by decide)]
    · have hd : ∀ d ∈ w, isWord d = true := fun d hd => hw d (List.mem_cons_of_mem _ hd)
      show addToRuns c (runs (w ++ a)) = _
      rw [ih hw' hd]
      obtain ⟨d, w, rfl⟩ := List.exists_cons_of_ne_nil hw'
      rw [addToRuns, hc, hd d (by simp), if_pos rfl]

theorem flatten_runs (s : List Char) : (runs s).flatten = s := by
  induction s with
  | nil => rfl
  | cons c s ih =>
    show (addToRuns c (runs s)).flatten = _
    unfold addToRuns
    split
    · rename_i d run rest h
      rw [h] at ih
      split <;> simpa using ih
    · simpa using ih

theorem drop_length_takeWhile (p : Char → Bool) (s : List Char) : s.drop (s.takeWhile p).length = s.dropWhile p := by
  calc s.drop (s.takeWhile p).length
      = (s.takeWhile p ++ s.dropWhile p).drop (s.takeWhile p).length := by rw [List.takeWhile_append_dropWhile]
    _ = s.dropWhile p := List.drop_left

theorem dropSeparator_eq_drop (s : List Char) : dropSeparator s = s.drop (separatorLength s) := by
  have blanks : s.drop (s.takeWhile isBlank).length = trimStart s := drop_length_takeWhile isBlank s
  cases ht : s.dropWhile isBlank with
  | nil =>
    have hs : trimStart s = [] := ht
    simp only [dropSeparator, separatorLength, ht, hs, blanks]
  | cons c rest =>
    have hs : trimStart s = c :: rest := ht
    rw [hs] at blanks
    by_cases hc : c = ':' ∨ c = '-'
    · simp only [dropSeparator, separatorLength, ht, hs, if_pos hc]
      rw [← List.drop_drop, ← List.drop_drop, blanks, List.drop_one, List.tail_cons, drop_length_takeWhile]
      rfl
    · simp only [dropSeparator, separatorLength, ht, hs, if_neg hc, blanks]

theorem removePriority_other {c : Char} (hc : isWord c = false) (s : List Char) :
    removePriority (c :: s) = c :: removePriority s := by
  have first : ∀ run, isPriorityWord (c :: run) = false := isPriorityWord_of_not_word hc
  unfold removePriority
  cases s with
  | nil => simp [runs, addToRuns, first]
  | cons d s =>
    obtain ⟨run, rest, hr⟩ := runs_cons d s
    have pushed : runs (c :: d :: s) = addToRuns c ((d :: run) :: rest) := by rw [← hr]; rfl
    rw [pushed, hr, addToRuns]
    cases hd : isWord d with
    | false =>
      -- The character joins the run at the front, which names no level with it or without it.
      rw [hc, if_pos rfl]
      simp only [List.dropWhile_cons, List.takeWhile_cons, first, isPriorityWord_of_not_word hd]
      cases rest.dropWhile (!isPriorityWord ·) <;> simp
    | true =>
      rw [hc, if_neg (by decide)]
      generalize (d :: run) :: rest = pieces
      simp only [List.dropWhile_cons, List.takeWhile_cons, first]
      cases pieces.dropWhile (!isPriorityWord ·) <;> simp

theorem removePriority_run {w a : List Char} (hw : IsRun w) (ha : NoWordAhead a) :
    removePriority (w ++ a) = if isPriorityWord w then dropSeparator a else w ++ removePriority a := by
  unfold removePriority
  rw [runs_run hw ha]
  cases hp : isPriorityWord w
  · simp only [List.dropWhile_cons, List.takeWhile_cons, hp]
    cases (runs a).dropWhile (!isPriorityWord ·) <;> simp
  · simp [hp, flatten_runs]

/-! ## The span of the first priority word -/

theorem prioritySpanAt?_of_noWordAhead {s : List Char} {i : Nat} (h : NoWordAhead (s.drop i)) :
    prioritySpanAt? s i = none := by
  rw [prioritySpanAt?, takeWhile_of_noWordAhead h, if_neg]
  rw [isPriorityWord_nil]
  simp

theorem prioritySpanAt?_append {x y : List Char}
    (h : NoWordAhead y ∨ ∀ c, x.getLast? = some c → isWord c = false) (i : Nat) :
    prioritySpanAt? (x ++ y) (x.length + i) = (prioritySpanAt? y i).map (Span.shift x.length) := by
  have hd : ∀ j, (x ++ y).drop (x.length + j) = y.drop j := fun j => List.drop_length_add_append j
  by_cases hy : NoWordAhead (y.drop i)
  · rw [prioritySpanAt?_of_noWordAhead hy, prioritySpanAt?_of_noWordAhead (by rw [hd]; exact hy)]
    rfl
  · -- The character in front of the word is the same, or in no word in both texts.
    have before : inWord ((x ++ y).take (x.length + i)).getLast? = inWord (y.take i).getLast? := by
      rw [List.take_length_add_append, List.getLast?_append]
      cases hl : (y.take i).getLast? with
      | some c => rfl
      | none =>
        have hi : y.take i = [] := List.getLast?_eq_none_iff.mp hl
        rcases h with h | h
        · rcases List.take_eq_nil_iff.mp hi with rfl | rfl
          · exact absurd h hy
          · exact absurd h (by simpa using hy)
        · cases hx : x.getLast? with
          | none => rfl
          | some c => exact h c hx
    simp only [prioritySpanAt?, wordEdge, before, hd, Nat.add_assoc]
    split
    · simp [Span.shift]
    · rfl

/-- No priority word starts in the first part. -/
theorem prioritySpan?_append {x y : List Char}
    (h : NoWordAhead y ∨ ∀ c, x.getLast? = some c → isWord c = false)
    (none : ∀ i < x.length, prioritySpanAt? (x ++ y) i = none) :
    prioritySpan? (x ++ y) = (prioritySpan? y).map (Span.shift x.length) := by
  rw [prioritySpan?, List.length_append, List.range_add, List.findSome?_append, List.findSome?_map]
  rw [List.findSome?_eq_none_iff.mpr fun i hi => none i (List.mem_range.mp hi), Option.none_or, prioritySpan?,
    List.map_findSome?]
  congr 1
  funext i
  exact prioritySpanAt?_append h i

theorem prioritySpan?_other {c : Char} (hc : isWord c = false) (s : List Char) :
    prioritySpan? (c :: s) = (prioritySpan? s).map (Span.shift 1) := by
  have alone : ∀ d, [c].getLast? = some d → isWord d = false := by
    intro d hd
    have : c = d := by simpa using hd
    rw [← this]; exact hc
  refine prioritySpan?_append (Or.inr alone) fun i hi => prioritySpanAt?_of_noWordAhead ?_
  have : i = 0 := by simpa using hi
  subst this
  exact noWordAhead_cons.mpr hc

theorem prioritySpan?_run {w a : List Char} (hw : IsRun w) (ha : NoWordAhead a) :
    prioritySpan? (w ++ a) =
      if isPriorityWord w then some ⟨0, w.length + separatorLength a⟩
      else (prioritySpan? a).map (Span.shift w.length) := by
  obtain ⟨c, w, rfl⟩ := List.exists_cons_of_ne_nil hw.1
  have hc : isWord c = true := hw.2 c (by simp)
  have front : prioritySpanAt? (c :: w ++ a) 0 =
      if isPriorityWord (c :: w) then some ⟨0, (c :: w).length + separatorLength a⟩ else none := by
    have edge : wordEdge ((c :: w ++ a).take 0).getLast? (c :: w ++ a).head? = true := by simp [wordEdge, inWord, hc]
    simp only [prioritySpanAt?, List.drop_zero, edge, takeWhile_run_append hw.2 ha, Nat.zero_add, List.drop_left,
      true_and]
  split
  · rename_i hp
    rw [if_pos hp] at front
    rw [prioritySpan?, List.cons_append, List.length_cons, List.range_succ_eq_map, List.findSome?_cons,
      ← List.cons_append, front]
  · rename_i hp
    rw [if_neg hp] at front
    refine prioritySpan?_append (Or.inl ha) fun i hi => ?_
    -- Within the word no edge stands in front of a character.
    cases i with
    | zero => exact front
    | succ i =>
      have within : ∀ j < (c :: w).length, inWord (c :: w ++ a)[j]? = true := by
        intro j hj
        rw [List.getElem?_append_left hj, List.getElem?_eq_getElem hj]
        exact hw.2 _ (List.getElem_mem hj)
      have before : ((c :: w ++ a).take (i + 1)).getLast? = (c :: w ++ a)[i]? := by
        have : i < (c :: w ++ a).length := by rw [List.length_append]; omega
        rw [List.getLast?_take, if_neg (Nat.succ_ne_zero i), Nat.add_sub_cancel, List.getElem?_eq_getElem this]
        rfl
      rw [prioritySpanAt?, before, List.head?_drop, wordEdge, within i (by omega), within (i + 1) hi, if_neg]
      simp

theorem removePriority_eq_without (s : List Char) : removePriority s = without (prioritySpan? s).toList s := by
  induction s using word_induction with
  | nil => rfl
  | run w a hw ha ih =>
    rw [removePriority_run hw ha, prioritySpan?_run hw ha]
    split
    · rw [Option.toList_some, without_front, List.drop_length_add_append, dropSeparator_eq_drop]
    · rw [ih, Option.toList_map, without_map_shift]
  | other c s hc ih _ =>
    rw [removePriority_other hc, prioritySpan?_other hc, ih, Option.toList_map]
    exact (without_map_shift [c] _ s).symm

theorem take_length_takeWhile (p : Char → Bool) (s : List Char) : s.take (s.takeWhile p).length = s.takeWhile p :=
  (List.prefix_iff_eq_take.mp (List.takeWhile_prefix p)).symm

/-- A separator is made of blanks, `:` and `-`. -/
theorem mem_take_separatorLength {s : List Char} {c : Char} (h : c ∈ s.take (separatorLength s)) :
    isBlank c = true ∨ c = ':' ∨ c = '-' := by
  have blank : ∀ t : List Char, c ∈ t.take (t.takeWhile isBlank).length → isBlank c = true := by
    intro t ht
    rw [take_length_takeWhile] at ht
    exact allBlank_takeWhile t c ht
  have past : s.drop (s.takeWhile isBlank).length = s.dropWhile isBlank := drop_length_takeWhile isBlank s
  unfold separatorLength at h
  cases ht : s.dropWhile isBlank with
  | nil => rw [ht] at h; exact Or.inl (blank s h)
  | cons d rest =>
    rw [ht] at h past
    by_cases hd : d = ':' ∨ d = '-'
    · simp only [if_pos hd, List.take_add, ← List.drop_drop, past, List.take_succ_cons, List.take_zero, List.drop_succ_cons,
        List.drop_zero, List.mem_append, List.mem_singleton] at h
      rcases h with (h | rfl) | h
      · exact Or.inl (blank s h)
      · exact Or.inr hd
      · exact Or.inl (blank rest h)
    · simp only [if_neg hd] at h
      exact Or.inl (blank s h)

theorem separatorLength_le (s : List Char) : separatorLength s ≤ s.length := by
  have blanks : (s.takeWhile isBlank).length + (s.dropWhile isBlank).length = s.length := by
    rw [← List.length_append, List.takeWhile_append_dropWhile]
  unfold separatorLength
  cases ht : s.dropWhile isBlank with
  | nil => simp only; omega
  | cons d rest =>
    rw [ht, List.length_cons] at blanks
    have := (List.takeWhile_prefix (l := rest) isBlank).length_le
    simp only
    split <;> omega

theorem isMark_of_isBlank {c : Char} (h : isBlank c = true) : isMark c = false := by
  cases hm : isMark c with
  | false => rfl
  | true =>
    simp only [isMark, Bool.or_eq_true, beq_iff_eq] at hm
    rcases hm with rfl | rfl <;> exact absurd h (by decide)

theorem not_blank_of_isMark {c : Char} (h : isMark c = true) : isBlank c = false := by
  cases hb : isBlank c with
  | false => rfl
  | true => rw [isMark_of_isBlank hb] at h; cases h

theorem isWord_of_isMark {c : Char} (h : isMark c = true) : isWord c = false := by
  simp only [isMark, Bool.or_eq_true, beq_iff_eq] at h
  rcases h with rfl | rfl <;> decide

theorem marksApart_isMark : MarksApart isMark := by
  intro c hc
  cases hm : isMark c with
  | false => rfl
  | true => rw [isWord_of_isMark hm] at hc; cases hc

theorem inWord_of_isPriorityWord {s : List Char} (h : isPriorityWord (s.takeWhile isWord) = true) :
    inWord s.head? = true := by
  cases hs : inWord s.head? with
  | true => rfl
  | false =>
    rw [takeWhile_of_noWordAhead (noWordAhead_iff.mpr hs), isPriorityWord_nil] at h
    cases h

/-- The first priority word is a longest word, and its span reaches to the end of its separator. -/
theorem prioritySpan?_parts {s : List Char} {p : Span} (h : prioritySpan? s = some p) :
    ∃ before word sep after, s = before ++ (word ++ (sep ++ after)) ∧ isPriorityWord word = true ∧
      p = ⟨before.length, before.length + (word ++ sep).length⟩ ∧ NoWordAhead (sep ++ after) ∧
      (∀ c, before.getLast? = some c → isWord c = false) ∧ ∀ c ∈ sep, isWord c = false ∧ isMark c = false := by
  obtain ⟨i, hi, hs⟩ := List.exists_of_findSome?_eq_some h
  have hi : i < s.length := List.mem_range.mp hi
  simp only [prioritySpanAt?] at hs
  split at hs
  · rename_i hw
    obtain ⟨hedge, hword⟩ := hw
    have hp := (Option.some.inj hs).symm
    let word := (s.drop i).takeWhile isWord
    let behind := (s.drop i).dropWhile isWord
    have hbehind : s.drop (i + word.length) = behind := by rw [← List.drop_drop, drop_length_takeWhile]
    have hlength : (s.take i).length = i := by rw [List.length_take]; omega
    refine ⟨s.take i, word, behind.take (separatorLength behind), behind.drop (separatorLength behind), ?_, hword, ?_,
      ?_, ?_, ?_⟩
    · rw [List.take_append_drop, List.takeWhile_append_dropWhile, List.take_append_drop]
    · rw [hp, hlength, List.length_append, List.length_take, Nat.min_eq_left (separatorLength_le behind),
        ← Nat.add_assoc, hbehind]
    · rw [List.take_append_drop]; exact noWordAhead_dropWhile _
    · intro c hc
      rw [wordEdge, inWord_of_isPriorityWord hword, hc] at hedge
      simpa [inWord] using hedge
    · intro c hc
      rcases mem_take_separatorLength hc with h | rfl | rfl
      · exact ⟨isWord_of_isBlank h, isMark_of_isBlank h⟩
      · decide
      · decide
  · cases hs

/-! ## All spans at once -/

theorem cleaned_eq_tidy (s : List Char) :
    cleaned s = tidy (unmarked isMark (without (prioritySpan? s).toList s)) := by
  rw [cleaned, removeMarked_eq_unmarked (by decide), removeMarked_eq_unmarked (by decide), removePriority_eq_without,
    unmarked_unmarked (marksApart_beq (by decide)) (marksApart_beq (by decide))]
  rfl

/-- A span behind a clean cut, and the words behind marks, are taken out of each part on its own. -/
theorem without_cons_append {x y : List Char} (h : CutsClean isMark x y) (p : Span) :
    without (p.shift x.length :: markedSpans isMark (x ++ y)) (x ++ y) =
      unmarked isMark x ++ without (p :: markedSpans isMark y) y := by
  have order : p.shift x.length :: markedSpans isMark (x ++ y) =
      [p.shift x.length] ++ (markedSpans isMark x ++ (markedSpans isMark y).map (Span.shift x.length)) := by
    rw [markedSpans_append h]
    rfl
  rw [order, without_comm, List.append_assoc, ← List.map_singleton, ← List.map_append,
    without_append (within_markedSpans isMark x), without_comm]
  rfl

theorem cutsClean_of_separator {sep after : List Char} (hnext : NoWordAhead (sep ++ after))
    (hsep : ∀ c ∈ sep, isWord c = false ∧ isMark c = false) (x : List Char) : CutsClean isMark (x ++ sep) after := by
  by_cases hs : sep = []
  · subst hs
    exact Or.inl hnext
  · refine Or.inr fun c hc => hsep c ?_
    rw [List.getLast?_append_of_ne_nil x hs] at hc
    exact List.mem_of_getLast? hc

/-- A priority word with no mark in front of it, and its separator, taken out with the words behind marks. -/
theorem without_word {word sep after : List Char} (hw : IsRun word) (hnext : NoWordAhead (sep ++ after))
    (hsep : ∀ c ∈ sep, isWord c = false ∧ isMark c = false) :
    without (⟨0, (word ++ sep).length⟩ :: markedSpans isMark (word ++ sep ++ after)) (word ++ sep ++ after) =
      unmarked isMark after := by
  have plain : ∀ c ∈ word ++ sep, isMark c = false := by
    intro c hc
    rcases List.mem_append.mp hc with hc | hc
    · exact marksApart_isMark c (hw.2 c hc)
    · exact (hsep c hc).2
  rw [markedSpans_append (cutsClean_of_separator hnext hsep word), markedSpans_of_no_mark plain, List.nil_append,
    ← List.singleton_append, without_append (by simp [Within]), without_whole]
  rfl

/-- The same with a mark in front of the word: the mark goes, and nothing behind the separator. -/
theorem without_marked_word {mark : Char} (hmark : isMark mark = true) {word sep after : List Char} (hw : IsRun word)
    (hnext : NoWordAhead (sep ++ after)) (hsep : ∀ c ∈ sep, isWord c = false ∧ isMark c = false) :
    without (⟨1, 1 + (word ++ sep).length⟩ :: markedSpans isMark (mark :: word ++ sep ++ after))
      (mark :: word ++ sep ++ after) = unmarked isMark after := by
  have hsep' : NoWordAhead sep := fun c hc => (hsep c (List.mem_of_mem_head? hc)).1
  have spans : markedSpans isMark (mark :: word ++ sep) = [⟨0, (mark :: word).length⟩] := by
    rw [markedSpans_append (Or.inl hsep'), markedSpans_marked marksApart_isMark hmark hw,
      markedSpans_of_no_mark fun c hc => (hsep c hc).2]
    rfl
  have within : Within [⟨1, 1 + (word ++ sep).length⟩, ⟨0, (mark :: word).length⟩] (mark :: word ++ sep).length := by
    intro p hp
    simp only [List.mem_cons, List.not_mem_nil, or_false] at hp
    simp only [List.cons_append, List.length_cons, List.length_append] at hp ⊢
    rcases hp with rfl | rfl
    · show 1 + _ ≤ _; omega
    · show _ + 1 ≤ _; omega
  have all : ∀ i < (mark :: word ++ sep).length,
      covered [⟨1, 1 + (word ++ sep).length⟩, ⟨0, (mark :: word).length⟩] i = true := by
    intro i hi
    simp only [List.cons_append, List.length_cons, List.length_append] at hi
    simp only [covered, List.any_cons, List.any_nil, Span.covers, List.length_cons, List.length_append, Bool.or_false,
      Bool.or_eq_true, Bool.and_eq_true, decide_eq_true_eq]
    omega
  rw [markedSpans_append (cutsClean_of_separator hnext hsep (mark :: word)), spans, ← List.cons_append,
    without_append within, without_of_covered all]
  rfl

/-- The span of a word and its separator taken out on its own. -/
theorem without_one (before m after : List Char) :
    without [⟨before.length, before.length + m.length⟩] (before ++ (m ++ after)) = before ++ after := by
  have shifted : [⟨before.length, before.length + m.length⟩] = [(⟨0, m.length⟩ : Span)].map (Span.shift before.length) := rfl
  rw [shifted, without_map_shift, without_front, List.drop_left]

/-! ## The tidied text -/

theorem dropColon_of_colon {s rest : List Char} (h : trimStart s = ':' :: rest) : dropColon s = trimStart rest := by
  simp only [dropColon, h]

theorem dropColon_of_no_colon {s : List Char} (h : ∀ rest, trimStart s ≠ ':' :: rest) : dropColon s = s := by
  unfold dropColon
  split
  · rename_i rest hs
    exact absurd hs (h rest)
  · rfl

theorem dropOneColon_colon (s : List Char) : dropOneColon (':' :: s) = s := rfl

theorem dropOneColon_cons {c : Char} (h : c ≠ ':') (s : List Char) : dropOneColon (c :: s) = c :: s := by
  rw [dropOneColon]
  intro t e
  exact h (List.cons.inj e).1

theorem length_dropOneColon_le (s : List Char) : (dropOneColon s).length ≤ s.length := by
  unfold dropOneColon
  split <;> simp

theorem filter_dropColon (s : List Char) :
    (dropColon s).filter (!isBlank ·) = dropOneColon (s.filter (!isBlank ·)) := by
  rw [← filter_trimStart s]
  unfold dropColon
  split
  · rename_i rest h
    rw [h, filter_trimStart]
    rfl
  · rename_i h
    rw [← filter_trimStart s]
    cases ht : trimStart s with
    | nil => rfl
    | cons c t =>
      have hc : isBlank c = false := isBlank_head_trimStart (s := s) (by rw [ht]; rfl)
      have hcolon : c ≠ ':' := fun e => h t (by rw [ht, e])
      rw [List.filter_cons, hc, if_pos (by decide), dropOneColon_cons hcolon]

/-- Tidying keeps every character that is not blank, in order, but for a colon in front of all others. -/
theorem filter_tidy (s : List Char) : (tidy s).filter (!isBlank ·) = dropOneColon (s.filter (!isBlank ·)) := by
  rw [tidy, filter_trim, filter_dropColon, filter_collapse]

theorem dropOneColon_append_ne {c : Char} (hc : c ≠ ':') (v a b : List Char) :
    dropOneColon (a ++ (c :: v ++ b)) ≠ dropOneColon (a ++ b) := by
  intro h
  have hlen := congrArg List.length h
  cases a with
  | nil =>
    have := length_dropOneColon_le b
    rw [List.nil_append, List.nil_append, List.cons_append, dropOneColon_cons hc] at hlen
    simp only [List.length_cons, List.length_append] at hlen
    omega
  | cons d a =>
    simp only [List.cons_append] at hlen
    by_cases hd : d = ':'
    · subst hd
      simp only [dropOneColon_colon, List.length_append, List.length_cons] at hlen
      omega
    · simp only [dropOneColon_cons hd, List.length_append, List.length_cons] at hlen
      omega

/-- A text that starts with neither a blank nor a colon shows in the tidied text. -/
theorem tidy_append_ne {c : Char} (hc : isBlank c = false) (hcolon : c ≠ ':') (v a b : List Char) :
    tidy (a ++ (c :: v ++ b)) ≠ tidy (a ++ b) := by
  intro h
  have := congrArg (List.filter (!isBlank ·)) h
  rw [filter_tidy, filter_tidy, List.filter_append, List.filter_append, List.filter_append, List.filter_cons, hc,
    if_pos (by decide)] at this
  exact dropOneColon_append_ne hcolon _ _ _ this

/-! ## One sweep after the other, and all spans at once -/

theorem isRun_of_isPriorityWord {w : List Char} (h : isPriorityWord w = true) : IsRun w := by
  refine ⟨fun hw => ?_, isWord_of_isPriorityWord h⟩
  rw [hw, isPriorityWord_nil] at h
  cases h

theorem not_blank_of_isWord {c : Char} (h : isWord c = true) : isBlank c = false := by
  cases hb : isBlank c with
  | false => rfl
  | true => rw [isWord_of_isBlank hb] at h; cases h

/-- A mark that comes to stand in front of other text stays where no word follows, and takes the word
    along where one does. Either way the text is not that of the two parts on their own. -/
theorem tidy_unmarked_mark_ne {mark : Char} (hmark : isMark mark = true) (x after : List Char) :
    tidy (unmarked isMark (x ++ mark :: after)) ≠ tidy (unmarked isMark x ++ unmarked isMark after) := by
  have hnext : NoWordAhead (mark :: after) := noWordAhead_cons.mpr (isWord_of_isMark hmark)
  rw [unmarked_append (Or.inl hnext)]
  rcases noWordAhead_or_run after with h | ⟨v, hsplit, hv, ha⟩
  · have hcolon : mark ≠ ':' := by
      rintro rfl
      exact absurd hmark (by decide)
    rw [unmarked_lone mark h]
    exact tidy_append_ne (not_blank_of_isMark hmark) hcolon [] _ _
  · obtain ⟨c, v, rfl⟩ := List.exists_cons_of_ne_nil hv.1
    have hc : isWord c = true := hv.2 c (by simp)
    have hcolon : c ≠ ':' := by
      rintro rfl
      exact absurd hc (by decide)
    rw [hsplit, unmarked_marked marksApart_isMark hmark hv ha, unmarked_run marksApart_isMark hv ha]
    exact (tidy_append_ne (not_blank_of_isWord hc) hcolon v _ _).symm

/-- With no mark in front of the priority word, taking out all spans at once is taking out the words behind
    marks when the priority word is gone. -/
theorem without_spans_apart {before word sep after : List Char} (hw : IsRun word) (hnext : NoWordAhead (sep ++ after))
    (hsep : ∀ c ∈ sep, isWord c = false ∧ isMark c = false)
    (hbefore : ∀ c, before.getLast? = some c → isWord c = false ∧ isMark c = false) :
    without (⟨before.length, before.length + (word ++ sep).length⟩ ::
        markedSpans isMark (before ++ (word ++ (sep ++ after)))) (before ++ (word ++ (sep ++ after))) =
      unmarked isMark (before ++ after) := by
  have union := without_cons_append (Or.inr hbefore : CutsClean isMark before (word ++ sep ++ after))
    ⟨0, (word ++ sep).length⟩
  rw [without_word hw hnext hsep, ← unmarked_append (Or.inr hbefore), List.append_assoc word] at union
  exact union

/-- With a mark in front of it the mark goes too, and nothing behind the separator. -/
theorem without_spans_behind_mark {mark : Char} (hmark : isMark mark = true) {before word sep after : List Char}
    (hw : IsRun word) (hnext : NoWordAhead (sep ++ after)) (hsep : ∀ c ∈ sep, isWord c = false ∧ isMark c = false) :
    without (⟨(before ++ [mark]).length, (before ++ [mark]).length + (word ++ sep).length⟩ ::
        markedSpans isMark (before ++ [mark] ++ (word ++ (sep ++ after)))) (before ++ [mark] ++ (word ++ (sep ++ after))) =
      unmarked isMark before ++ unmarked isMark after := by
  have cut : CutsClean isMark before (mark :: word ++ sep ++ after) :=
    Or.inl (noWordAhead_cons.mpr (isWord_of_isMark hmark))
  have union := without_cons_append cut ⟨1, 1 + (word ++ sep).length⟩
  rw [without_marked_word hmark hw hnext hsep] at union
  have text : before ++ (mark :: word ++ sep ++ after) = before ++ [mark] ++ (word ++ (sep ++ after)) := by simp
  have span : (⟨1, 1 + (word ++ sep).length⟩ : Span).shift before.length =
      ⟨(before ++ [mark]).length, (before ++ [mark]).length + (word ++ sep).length⟩ := by
    simp [Span.shift, Nat.add_assoc]
  rwa [text, span] at union

/-- Taking out the first priority word joins the text in front of it with the text behind its separator.
    That makes or breaks a word behind a mark exactly where a mark is at the end of the text in front. -/
theorem tidy_without_tokenSpans_iff (s : List Char) :
    tidy (unmarked isMark (without (prioritySpan? s).toList s)) = tidy (without (tokenSpans s) s) ↔
      priorityBehindMark s = false := by
  unfold tokenSpans priorityBehindMark
  cases hp : prioritySpan? s with
  | none => simp [without_nil, unmarked]
  | some p =>
    obtain ⟨before, word, sep, after, rfl, hword, rfl, hnext, hbefore, hsep⟩ := prioritySpan?_parts hp
    have hw : IsRun word := isRun_of_isPriorityWord hword
    have joined : without [⟨before.length, before.length + (word ++ sep).length⟩] (before ++ (word ++ (sep ++ after))) =
        before ++ after := by
      rw [← List.append_assoc word]
      exact without_one before (word ++ sep) after
    simp only [Option.toList_some, Option.any_some, List.singleton_append, List.take_left, joined]
    cases hm : before.getLast?.any isMark with
    | false =>
      have apart : ∀ c, before.getLast? = some c → isWord c = false ∧ isMark c = false := by
        intro c hc
        refine ⟨hbefore c hc, ?_⟩
        rw [hc] at hm
        exact hm
      rw [without_spans_apart hw hnext hsep apart]
      exact ⟨fun _ => rfl, fun _ => rfl⟩
    | true =>
      obtain ⟨mark, hlast, hmark⟩ := (Option.any_eq_true _ _).mp hm
      obtain ⟨x, rfl⟩ := List.getLast?_eq_some_iff.mp hlast
      rw [without_spans_behind_mark hmark hw hnext hsep, List.append_assoc, List.singleton_append]
      exact ⟨fun h => absurd h (tidy_unmarked_mark_ne hmark x after), fun h => absurd h (by decide)⟩

/-! ## What a recognised line says -/

theorem bracketed_inj {kind : String} {a b : List Char} :
    "[" ++ kind ++ "] " ++ String.ofList a = "[" ++ kind ++ "] " ++ String.ofList b ↔ a = b := by
  constructor
  · intro h
    have := congrArg String.toList h
    simpa using this
  · rintro rfl
    rfl

theorem describe_content (word body : List Char) :
    (describe word body).content = "[" ++ (describe word body).kind ++ "] " ++
      String.ofList (tidy (unmarked isMark (without (prioritySpan? (trim body)).toList (trim body)))) := by
  apply String.toList_inj.mp
  rw [← cleaned_eq_tidy]
  simp [describe]

/-- The content of a recognised line is the kind in brackets and the tidied body, without the first priority
    word and its separator, and then without the words behind marks in what is left. Every other character of
    that text that is not blank stays, in order, but for a colon in front of all. That is the body without the
    spans of all its tokens exactly when its first priority word is not behind a mark. -/
theorem line?_cleans {r : Recogniser} {line : List Char} {found : Found} (h : r.line? line = some found) :
    ∃ word body, marker? r.keywords line = some (word, body) ∧
      let b := trim body
      let unprioritised := without (prioritySpan? b).toList b
      let kept := without (markedSpans isMark unprioritised) unprioritised
      found.content = "[" ++ found.kind ++ "] " ++ String.ofList (tidy kept) ∧
      (tidy kept).filter (!isBlank ·) = dropOneColon (kept.filter (!isBlank ·)) ∧
      (found.content = "[" ++ found.kind ++ "] " ++ String.ofList (tidy (without (tokenSpans b) b)) ↔
        priorityBehindMark b = false) := by
  obtain ⟨⟨word, body⟩, hm, rfl⟩ := Option.map_eq_some_iff.mp h
  have content := describe_content word body
  refine ⟨word, body, hm, content, filter_tidy _, ?_⟩
  rw [content, ← tidy_without_tokenSpans_iff (trim body), bracketed_inj]

/-- A priority word, an assignee and a tag in one line: the union of their spans is what goes. -/
theorem line?_cleans_three_tokens :
    ∃ found, Recogniser.line? ⟨["TODO".toList]⟩ "// TODO: HIGH - : fix @bob it #ui".toList = some found ∧
      found.content = "[TODO] fix it" ∧
      ∃ word body, marker? ["TODO".toList] "// TODO: HIGH - : fix @bob it #ui".toList = some (word, body) ∧
        found.content = "[" ++ found.kind ++ "] " ++ String.ofList (tidy (without (tokenSpans (trim body)) (trim body))) := by
  have h : Recogniser.line? ⟨["TODO".toList]⟩ "// TODO: HIGH - : fix @bob it #ui".toList =
      some (describe "TODO".toList "HIGH - : fix @bob it #ui".toList) := by decide +kernel
  have hm : marker? ["TODO".toList] "// TODO: HIGH - : fix @bob it #ui".toList =
      some ("TODO".toList, "HIGH - : fix @bob it #ui".toList) := by decide +kernel
  obtain ⟨word, body, hm', -, -, union⟩ := line?_cleans h
  obtain ⟨rfl, rfl⟩ := Prod.mk.inj (Option.some.inj (hm'.symm.trans hm))
  exact ⟨_, h, by decide +kernel, _, _, hm, union.mpr (by decide +kernel)⟩

/-- The `h` behind the `@` is the first priority word: without it and its separator `@` and `bob` are one
    assignee, and `bob`, which is in no token of the body, goes with it. -/
theorem line?_joins_mark_and_word :
    ∃ found word body, Recogniser.line? ⟨["TODO".toList]⟩ "// TODO: @h-bob".toList = some found ∧
      marker? ["TODO".toList] "// TODO: @h-bob".toList = some (word, body) ∧ found.content = "[TODO] " ∧
      "[" ++ found.kind ++ "] " ++ String.ofList (tidy (without (tokenSpans (trim body)) (trim body))) = "[TODO] bob" := by
  refine ⟨_, _, _, rfl, rfl, ?_, ?_⟩ <;> decide +kernel

end MarkerScan.Marker
