import MarkerScan.Proofs.Marker.Cleaning
/-
  MarkerScan.Proofs.Marker.Metadata — the metadata of a text, word by word.

  A text is read from its front: a longest word, or a character of no word. Each step has one
  equation for the priority (`priority?_run`, `priority?_other`) and for the words behind a
  mark (`markedWords_run`, `markedWords_other`, `markedWords_marked`). From them: what is found
  behind a mark is a word (`isRun_of_mem_markedWords`), so an item that was found in a text has
  no empty assignee, no empty list of tags and no empty tag (`filled_of_mem_items`).
-/

namespace MarkerScan.Marker

open Text

/-! ## The priority -/

theorem isPriorityWord_of_names {word : List Char} {p : Priority} (h : Priority.ofToken? word = some p) :
    isPriorityWord word = true := by
  rw [isPriorityWord, h]
  rfl

theorem ofToken?_of_not_word {c : Char} (hc : isWord c = false) (w : List Char) : Priority.ofToken? (c :: w) = none :=
  Option.not_isSome_iff_eq_none.mp (by
    have : isPriorityWord (c :: w) = false := isPriorityWord_of_not_word hc w
    rw [isPriorityWord] at this
    rw [this]
    decide)

theorem priority?_run {w a : List Char} (hw : IsRun w) (ha : NoWordAhead a) :
    priority? (w ++ a) = (Priority.ofToken? w).or (priority? a) := by
  rw [priority?, runs_run hw ha, List.findSome?_cons, priority?]
  cases Priority.ofToken? w <;> rfl

theorem priority?_other {c : Char} (hc : isWord c = false) (s : List Char) : priority? (c :: s) = priority? s := by
  have unnamed := ofToken?_of_not_word hc
  cases s with
  | nil => exact (List.findSome?_cons ..).trans (by rw [unnamed]; rfl)
  | cons d s =>
    obtain ⟨run, rest, hr⟩ := runs_cons d s
    have pushed : runs (c :: d :: s) = addToRuns c ((d :: run) :: rest) := by rw [← hr]; rfl
    rw [priority?, priority?, pushed, hr, addToRuns]
    cases hd : isWord d with
    | false =>
      -- The character joins the run at the front, which names no level with it or without it.
      rw [hc, if_pos rfl, List.findSome?_cons, List.findSome?_cons, unnamed, ofToken?_of_not_word hd]
    | true => rw [hc, if_neg (by decide), List.findSome?_cons, unnamed]

/-! ## The words behind a mark -/

section
variable {mark : Char}

theorem foldr_collect_of_noWordAhead (mark : Char) {a : List Char} (ha : NoWordAhead a) :
    a.foldr (collect mark) ⟨[], []⟩ = ⟨[], markedWords mark a⟩ := by
  cases a with
  | nil => rfl
  | cons c a =>
    rw [markedWords, List.foldr_cons, collect, noWordAhead_cons.mp ha, if_neg (by decide)]
    split <;> rfl

theorem foldr_collect_run {w a : List Char} (hw : ∀ c ∈ w, isWord c = true) (ha : NoWordAhead a) :
    (w ++ a).foldr (collect mark) ⟨[], []⟩ = ⟨w, markedWords mark a⟩ := by
  induction w with
  | nil => exact foldr_collect_of_noWordAhead mark ha
  | cons c w ih =>
    rw [List.cons_append, List.foldr_cons, ih fun d hd => hw d (List.mem_cons_of_mem _ hd), collect,
      if_pos (hw c List.mem_cons_self)]

theorem markedWords_run {w a : List Char} (hw : ∀ c ∈ w, isWord c = true) (ha : NoWordAhead a) :
    markedWords mark (w ++ a) = markedWords mark a := by
  rw [markedWords, foldr_collect_run hw ha]

/-- A character that is no mark, or a mark with no word behind it. -/
theorem markedWords_other {c : Char} (hc : isWord c = false) {s : List Char} (h : c ≠ mark ∨ NoWordAhead s) :
    markedWords mark (c :: s) = markedWords mark s := by
  rw [markedWords, List.foldr_cons, collect, hc, if_neg (by decide)]
  rcases h with h | h
  · rw [if_neg fun both => h both.1]
    rfl
  · rw [foldr_collect_of_noWordAhead mark h, if_neg fun both => both.2 rfl]

theorem markedWords_marked (hm : isWord mark = false) {w a : List Char} (hw : IsRun w) (ha : NoWordAhead a) :
    markedWords mark (mark :: (w ++ a)) = w :: markedWords mark a := by
  rw [markedWords, List.foldr_cons, foldr_collect_run hw.2 ha, collect, hm, if_neg (by decide), if_pos ⟨rfl, hw.1⟩]

theorem isRun_of_mem_markedWords {w s : List Char} (h : w ∈ markedWords mark s) : IsRun w := by
  induction s using word_induction with
  | nil => cases h
  | run v a hv ha ih =>
    rw [markedWords_run hv.2 ha] at h
    exact ih h
  | other c s hc ih ihBehind =>
    by_cases hm : c = mark
    · subst hm
      rcases noWordAhead_or_run s with hs | ⟨v, hsplit, hv, ha⟩
      · rw [markedWords_other hc (Or.inr hs)] at h
        exact ih h
      · rw [hsplit, markedWords_marked hc hv ha] at h
        rcases List.mem_cons.mp h with rfl | h
        · exact hv
        · exact ihBehind h
    · rw [markedWords_other hc (Or.inl hm)] at h
      exact ih h

end

theorem tags?_eq_some_iff {s : List Char} {words : List (List Char)} :
    tags? s = some words ↔ words = markedWords '#' s ∧ words ≠ [] := by
  simp only [tags?]
  cases hw : markedWords '#' s with
  | nil => simp
  | cons w ws =>
    constructor
    · intro h
      obtain rfl := Option.some.inj h
      exact ⟨rfl, List.cons_ne_nil _ _⟩
    · rintro ⟨rfl, -⟩
      rfl

end MarkerScan.Marker

namespace MarkerScan

/-- What is set is not empty, and no tag holds a semicolon. -/
structure Item.Filled (i : Item) : Prop where
  assignee : i.assignee ≠ some ""
  tags : i.tags ≠ some []
  tag : ∀ tags ∈ i.tags, ∀ tag ∈ tags, tag ≠ "" ∧ ';' ∉ tag.toList

namespace Marker

open Text

theorem ofList_ne_empty {w : List Char} (h : w ≠ []) : String.ofList w ≠ "" := fun e =>
  h (by simpa using congrArg String.toList e)

/-- The items of a text are filled. -/
theorem filled_of_mem_items {r : Recogniser} {path : String} {text : List Char} {i : Item}
    (h : i ∈ r.items path text) : i.Filled := by
  obtain ⟨⟨line, n⟩, -, hi⟩ := List.mem_filterMap.mp h
  obtain ⟨found, hf, rfl⟩ := Option.map_eq_some_iff.mp hi
  obtain ⟨⟨word, body⟩, -, rfl⟩ := Option.map_eq_some_iff.mp hf
  have tags : ∀ t, ((describe word body).item path n).tags = some t →
      ∃ words, t = words.map String.ofList ∧ words ≠ [] ∧ ∀ w ∈ words, IsRun w := by
    intro t ht
    obtain ⟨words, hw, rfl⟩ := Option.map_eq_some_iff.mp
      (ht : (tags? (trim body)).map (·.map String.ofList) = some t)
    obtain ⟨rfl, hne⟩ := tags?_eq_some_iff.mp hw
    exact ⟨_, rfl, hne, fun w hw => isRun_of_mem_markedWords hw⟩
  constructor
  · intro e
    obtain ⟨name, hn, e⟩ := Option.map_eq_some_iff.mp (e : (assignee? (trim body)).map String.ofList = some "")
    exact ofList_ne_empty (isRun_of_mem_markedWords (List.mem_of_mem_head? hn)).1 e
  · intro e
    obtain ⟨words, hw, hne, -⟩ := tags [] e
    exact hne (List.map_eq_nil_iff.mp hw.symm)
  · intro t ht tag htag
    obtain ⟨words, rfl, -, runs⟩ := tags t ht
    obtain ⟨w, hw, rfl⟩ := List.mem_map.mp htag
    refine ⟨ofList_ne_empty (runs w hw).1, fun hsep => ?_⟩
    rw [String.toList_ofList] at hsep
    exact absurd ((runs w hw).2 _ hsep) (by decide)

end Marker

end MarkerScan
