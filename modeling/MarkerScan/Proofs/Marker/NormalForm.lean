import Mathlib.Data.List.Chain
import MarkerScan.Proofs.Marker.MetadataPattern
import MarkerScan.Proofs.Marker.Token
/-
  MarkerScan.Proofs.Marker.NormalForm — the form of the text that the cleaning leaves.

  `NoneMarked isMark s`: no mark stands right in front of a word character. `SingleSpaced s`:
  every blank is a space, and no two stand side by side. Both say what stands next to what,
  so a part of the text has them when the text has.

  Taking something out of a text brings what was in front of it next to what was behind it.
  The steps of the cleaning may do so because behind all that they take out starts no word:
  - `noneMarked_unmarked`: a sweep leaves none of its own marks in front of a word, and none of
    another mark where there was none before;
  - `noneMarked_collapse` / `singleSpaced_collapse`: nor does collapsing, and it leaves single
    spaces;
  - `longestWords_removePriority` / `longestWords_unmarked`: no step makes a longest word that
    was not there, so none makes a priority word;
  - `normal_cleaned`, and `line?_normal` with the text behind every step.
-/

namespace MarkerScan.Marker

open Text

/-- No mark stands right in front of a word character. -/
def NoneMarked (isMark : Char → Bool) (s : List Char) : Prop := s.IsChain fun c d => isMark c = true → isWord d = false

/-- Every blank is a space, and no two of them stand side by side. -/
structure SingleSpaced (s : List Char) : Prop where
  spaces : ∀ c ∈ s, isBlank c = true → c = ' '
  apart : s.IsChain fun c d => ¬ (c = ' ' ∧ d = ' ')

structure Normal (s : List Char) : Prop extends SingleSpaced s where
  unmarked : NoneMarked isMark s
  front : ∀ c, s.head? = some c → isBlank c = false
  back : ∀ c, s.getLast? = some c → isBlank c = false

/-- The longest runs of word characters. -/
def longestWords (s : List Char) : List (List Char) := (runs s).filter (·.all isWord)

/-! ## Parts of a text -/

theorem NoneMarked.of_part {p : Char → Bool} {s t : List Char} (h : NoneMarked p s) (part : t <:+: s) : NoneMarked p t := by
  obtain ⟨before, after, rfl⟩ := part
  exact h.left_of_append.right_of_append

theorem SingleSpaced.of_part {s t : List Char} (h : SingleSpaced s) (part : t <:+: s) : SingleSpaced t := by
  refine ⟨fun c hc => h.spaces c (part.subset hc), ?_⟩
  obtain ⟨before, after, rfl⟩ := part
  exact h.apart.left_of_append.right_of_append

theorem noWordAhead_of_isPrefix {s t : List Char} (h : NoWordAhead s) (front : t <+: s) : NoWordAhead t := by
  obtain ⟨rest, rfl⟩ := front
  cases t with
  | nil => exact noWordAhead_nil
  | cons c t => exact noWordAhead_cons.mpr (noWordAhead_cons.mp h)

theorem dropColon_isSuffix (s : List Char) : dropColon s <:+ s := by
  unfold dropColon
  split
  · rename_i rest h
    have behind : ':' :: rest <:+ s := h ▸ List.dropWhile_suffix isBlank
    exact ((List.dropWhile_suffix isBlank).trans (List.suffix_cons ':' rest)).trans behind
  · exact List.suffix_rfl

/-! ## No word behind a mark -/

section
variable {p q : Char → Bool}

theorem noneMarked_cons {c : Char} {s : List Char} :
    NoneMarked p (c :: s) ↔ (p c = true → NoWordAhead s) ∧ NoneMarked p s := by
  rw [NoneMarked, List.isChain_cons]
  exact and_congr_left fun _ => ⟨fun h hc d hd => h d hd hc, fun h d hd hc => h hc d hd⟩

theorem noneMarked_run (hp : MarksApart p) {w : List Char} (hw : IsRun w) (a : List Char) :
    NoneMarked p (w ++ a) ↔ NoneMarked p a := by
  obtain ⟨-, word⟩ := hw
  induction w with
  | nil => exact Iff.rfl
  | cons c w ih =>
    have apart : ¬ p c = true := by simp [hp c (word c List.mem_cons_self)]
    rw [List.cons_append, noneMarked_cons, ih fun d hd => word d (List.mem_cons_of_mem c hd)]
    exact ⟨And.right, fun h => ⟨fun hc => absurd hc apart, h⟩⟩

/-- Of the marks `p`, only those that the sweep for `q` does not take matter in the text before it. -/
theorem noneMarked_unmarked (hp : MarksApart p) (hq : MarksApart q) (s : List Char) :
    NoneMarked (fun c => p c && !q c) s → NoneMarked p (unmarked q s) := by
  have hpq : MarksApart fun c => p c && !q c := fun c hc => by simp [hp c hc]
  induction s using word_induction with
  | nil => exact fun _ => List.IsChain.nil
  | run w a hw ha ih =>
    rw [noneMarked_run hpq hw, unmarked_run hq hw ha, noneMarked_run hp hw]
    exact ih
  | other c s hc ih ihBehind =>
    rw [noneMarked_cons]
    rintro ⟨first, rest⟩
    rcases noWordAhead_or_run s with hs | ⟨w, split, hw, ha⟩
    · rw [unmarked_lone c hs, noneMarked_cons]
      exact ⟨fun _ => noWordAhead_unmarked hq s hs, ih rest⟩
    · cases hqc : q c with
      | true =>
        rw [split, noneMarked_run hpq hw] at rest
        rw [split, unmarked_marked hq hqc hw ha]
        exact ihBehind rest
      | false =>
        rw [unmarked_plain hc hqc, noneMarked_cons]
        exact ⟨fun hpc => noWordAhead_unmarked hq s (first (by rw [hpc, hqc]; rfl)), ih rest⟩

theorem noneMarked_unmarked_self (hq : MarksApart q) (s : List Char) : NoneMarked q (unmarked q s) := by
  have taken : ∀ c d, (q c && !q c) = true → isWord d = false := by simp
  exact noneMarked_unmarked hq hq s (List.isChain_iff_forall_rel_of_append_cons_cons.mpr fun c d _ _ _ => taken c d)

theorem NoneMarked.unmarked (hp : MarksApart p) (hq : MarksApart q) {s : List Char} (h : NoneMarked p s) :
    NoneMarked p (unmarked q s) :=
  noneMarked_unmarked hp hq s <| h.imp fun _ _ none hc => none (Bool.and_eq_true _ _ ▸ hc).1

theorem noWordAhead_collapse {s : List Char} (h : NoWordAhead s) : NoWordAhead (collapse s) := by
  cases s with
  | nil => exact noWordAhead_nil
  | cons c s =>
    rw [collapse_cons, collapseBefore]
    split
    · split
      · rename_i space
        intro d hd
        rw [space] at hd
        rw [← Option.some.inj hd]
        rfl
      · exact noWordAhead_cons.mpr rfl
    · exact noWordAhead_cons.mpr (noWordAhead_cons.mp h)

theorem noneMarked_collapse (space : p ' ' = false) {s : List Char} (h : NoneMarked p s) : NoneMarked p (collapse s) := by
  induction s with
  | nil => exact List.IsChain.nil
  | cons c s ih =>
    obtain ⟨first, rest⟩ := noneMarked_cons.mp h
    rw [collapse_cons, collapseBefore]
    split
    · split
      · exact ih rest
      · exact noneMarked_cons.mpr ⟨fun marks => absurd (space.symm.trans marks) (by decide), ih rest⟩
    · exact noneMarked_cons.mpr ⟨fun hc => noWordAhead_collapse (first hc), ih rest⟩

end

/-! ## Single spaces -/

theorem singleSpaced_cons {c : Char} {s : List Char} (blank : isBlank c = true → c = ' ')
    (next : c = ' ' → s.head? ≠ some ' ') (h : SingleSpaced s) : SingleSpaced (c :: s) := by
  refine ⟨fun d hd => ?_, List.isChain_cons.mpr ⟨fun d hd both => next both.1 (both.2 ▸ hd), h.apart⟩⟩
  rcases List.mem_cons.mp hd with rfl | hd
  · exact blank
  · exact h.spaces d hd

theorem singleSpaced_collapse (s : List Char) : SingleSpaced (collapse s) := by
  induction s with
  | nil => exact ⟨fun c hc => absurd hc List.not_mem_nil, List.IsChain.nil⟩
  | cons c s ih =>
    rw [collapse_cons, collapseBefore]
    split
    · split
      · exact ih
      · rename_i apart
        exact singleSpaced_cons (fun _ => rfl) (fun _ => apart) ih
    · rename_i hc
      refine singleSpaced_cons (fun blank => absurd blank hc) (fun space => ?_) ih
      rw [space] at hc
      exact absurd isBlank_space hc

/-! ## The cleaned text -/

/-- The steps behind the sweeps leave a text in normal form if the sweeps leave no mark in front of a word. -/
theorem normal_tidy {s : List Char} (h : NoneMarked isMark s) : Normal (tidy s) := by
  have part : tidy s <:+: collapse s := (trim_isInfix _).trans (dropColon_isSuffix _).isInfix
  exact {
    toSingleSpaced := (singleSpaced_collapse s).of_part part
    unmarked := (noneMarked_collapse (by decide) h).of_part part
    front := fun c hc => isBlank_head_trim hc
    back := fun c hc => isBlank_getLast_trimEnd hc }

theorem normal_cleaned (s : List Char) : Normal (cleaned s) := by
  rw [cleaned_eq_tidy]
  exact normal_tidy (noneMarked_unmarked_self marksApart_isMark _)

/-! ## The longest words of what a step leaves -/

theorem longestWords_run {w a : List Char} (hw : IsRun w) (ha : NoWordAhead a) :
    longestWords (w ++ a) = w :: longestWords a := by
  rw [longestWords, runs_run hw ha, List.filter_cons, if_pos (List.all_eq_true.mpr hw.2)]
  rfl

theorem longestWords_other (c : Char) (s : List Char) (hc : isWord c = false) : longestWords (c :: s) = longestWords s := by
  have first : ∀ run, (c :: run).all isWord = false := fun run => by simp [hc]
  cases s with
  | nil => simp [longestWords, runs, addToRuns, first]
  | cons d s =>
    obtain ⟨run, rest, hr⟩ := runs_cons d s
    have pushed : runs (c :: d :: s) = addToRuns c (runs (d :: s)) := rfl
    rw [longestWords, longestWords, pushed, hr, addToRuns]
    cases hd : isWord d with
    | false => rw [hc, if_pos rfl]; simp [hc, hd]
    | true => rw [hc, if_neg (by decide), List.filter_cons, first, if_neg (by decide)]

theorem longestWords_skip {gap : List Char} (h : ∀ c ∈ gap, isWord c = false) (s : List Char) :
    longestWords (gap ++ s) = longestWords s := skips_front longestWords_other h s

theorem longestWords_trimStart (s : List Char) : longestWords (trimStart s) = longestWords s := by
  have gap : ∀ c ∈ s.takeWhile isBlank, isWord c = false := fun c hc => isWord_of_isBlank (allBlank_takeWhile s c hc)
  calc longestWords (trimStart s)
      = longestWords (s.takeWhile isBlank ++ trimStart s) := (longestWords_skip gap _).symm
    _ = longestWords s := by rw [takeWhile_append_trimStart]

theorem longestWords_dropColon (s : List Char) : longestWords (dropColon s) = longestWords s := by
  unfold dropColon
  split
  · rename_i rest h
    rw [longestWords_trimStart, ← longestWords_trimStart s, h, longestWords_other ':' rest rfl]
  · rfl

theorem longestWords_dropSeparator (s : List Char) : longestWords (dropSeparator s) = longestWords s := by
  rw [dropSeparator, ← longestWords_trimStart s]
  split
  · rename_i h
    rw [h]
  · rename_i c rest h
    rw [h]
    split
    · rename_i separator
      have apart : isWord c = false := by rcases separator with rfl | rfl <;> rfl
      rw [longestWords_trimStart, longestWords_other c rest apart]
    · rfl

theorem noWordAhead_removePriority {s : List Char} (h : NoWordAhead s) : NoWordAhead (removePriority s) := by
  cases s with
  | nil => exact noWordAhead_nil
  | cons c s =>
    rw [removePriority_other (noWordAhead_cons.mp h)]
    exact noWordAhead_cons.mpr (noWordAhead_cons.mp h)

/-- Of the longest words, only the first one that names a level goes, and no other comes. -/
theorem longestWords_removePriority (s : List Char) :
    longestWords (removePriority s) = (longestWords s).eraseP isPriorityWord := by
  induction s using word_induction with
  | nil => rfl
  | run w a hw ha ih =>
    rw [removePriority_run hw ha, longestWords_run hw ha]
    by_cases named : isPriorityWord w = true
    · rw [if_pos named, longestWords_dropSeparator, List.eraseP_cons_of_pos named]
    · rw [if_neg named, longestWords_run hw (noWordAhead_removePriority ha), ih, List.eraseP_cons_of_neg named]
  | other c s hc ih _ => rw [removePriority_other hc, longestWords_other c _ hc, longestWords_other c s hc, ih]

theorem longestWords_unmarked {q : Char → Bool} (hq : MarksApart q) (s : List Char) :
    (longestWords (unmarked q s)).Sublist (longestWords s) := by
  induction s using word_induction with
  | nil => exact List.Sublist.refl _
  | run w a hw ha ih =>
    rw [unmarked_run hq hw ha, longestWords_run hw (noWordAhead_unmarked hq a ha), longestWords_run hw ha]
    exact ih.cons_cons w
  | other c s hc ih ihBehind =>
    rw [longestWords_other c s hc]
    rcases noWordAhead_or_run s with hs | ⟨w, split, hw, ha⟩
    · rw [unmarked_lone c hs, longestWords_other c _ hc]
      exact ih
    · cases hqc : q c with
      | true =>
        rw [split, unmarked_marked hq hqc hw ha, longestWords_run hw ha]
        exact ihBehind.cons w
      | false =>
        rw [unmarked_plain hc hqc, longestWords_other c _ hc]
        exact ih

theorem longestWords_collapse (s : List Char) : longestWords (collapse s) = longestWords s := by
  induction s using word_induction with
  | nil => rfl
  | run w a hw ha ih =>
    have kept : collapse (w ++ a) = w ++ collapse a :=
      keeps_front (fun _ s hc => collapse_cons_of_not_blank (not_blank_of_isWord hc) s) hw.2 a
    rw [kept, longestWords_run hw (noWordAhead_collapse ha), longestWords_run hw ha, ih]
  | other c s hc ih _ =>
    rw [longestWords_other c s hc, ← ih, collapse_cons, collapseBefore]
    split
    · split
      · rfl
      · exact longestWords_other ' ' _ rfl
    · exact longestWords_other c _ hc

theorem longestWords_trimEnd (s : List Char) : longestWords (trimEnd s) = longestWords s := by
  induction s using word_induction with
  | nil => rfl
  | run w a hw ha ih =>
    have kept : trimEnd (w ++ a) = w ++ trimEnd a :=
      keeps_front (fun _ s hc => trimEnd_cons_of_not_blank (not_blank_of_isWord hc) s) hw.2 a
    rw [kept, longestWords_run hw (noWordAhead_of_isPrefix ha (trimEnd_isPrefix a)), longestWords_run hw ha, ih]
  | other c s hc ih _ =>
    rw [longestWords_other c s hc, ← ih, trimEnd_cons, keepBefore]
    split
    · rename_i none
      simp only [Bool.and_eq_true, List.isEmpty_iff] at none
      rw [none.1]
    · exact longestWords_other c _ hc

theorem longestWords_trim (s : List Char) : longestWords (trim s) = longestWords s := by
  rw [trim, longestWords_trimEnd, longestWords_trimStart]

/-! ## Step after step -/

section
variable {mark : Char}

theorem noneMarked_removeMarked (hm : isWord mark = false) (s : List Char) :
    NoneMarked (· == mark) (removeMarked mark s) := by
  rw [removeMarked_eq_unmarked hm]
  exact noneMarked_unmarked_self (marksApart_beq hm) s

theorem NoneMarked.removeMarked {mark' : Char} (hm : isWord mark = false) (hm' : isWord mark' = false) {s : List Char}
    (h : NoneMarked (· == mark) s) : NoneMarked (· == mark) (removeMarked mark' s) := by
  rw [removeMarked_eq_unmarked hm']
  exact h.unmarked (marksApart_beq hm) (marksApart_beq hm')

theorem longestWords_removeMarked (hm : isWord mark = false) (s : List Char) :
    (longestWords (removeMarked mark s)).Sublist (longestWords s) := by
  rw [removeMarked_eq_unmarked hm]
  exact longestWords_unmarked (marksApart_beq hm) s

end

/-- The steps behind the sweeps, in order. -/
def tidied (s : List Char) : List (List Char) := [collapse s, dropColon (collapse s), tidy s]

theorem NoneMarked.tidied {p : Char → Bool} (space : p ' ' = false) {s : List Char} (h : NoneMarked p s) :
    ∀ t ∈ tidied s, NoneMarked p t := by
  have spaced := noneMarked_collapse space h
  have uncoloned := spaced.of_part (dropColon_isSuffix _).isInfix
  simpa [Marker.tidied] using ⟨spaced, uncoloned, uncoloned.of_part (trim_isInfix _)⟩

theorem singleSpaced_tidied (s : List Char) : ∀ t ∈ tidied s, SingleSpaced t := by
  have spaced := singleSpaced_collapse s
  have uncoloned := spaced.of_part (dropColon_isSuffix _).isInfix
  simpa [tidied] using ⟨spaced, uncoloned, uncoloned.of_part (trim_isInfix _)⟩

theorem longestWords_tidied (s : List Char) : ∀ t ∈ tidied s, longestWords t = longestWords s := by
  simp [tidied, tidy, longestWords_trim, longestWords_dropColon, longestWords_collapse]

/-! ## What a recognised line says -/

/-- The content of a recognised line is the kind in brackets and a text in normal form. What a step of the
    cleaning takes out of the body does not come back in a later one: no assignee behind the sweep for `@`, no tag
    behind the sweep for `#`, and no second space behind the collapsing. No step makes a longest word that the
    body has not, so with the first priority word gone no other priority word comes. -/
theorem line?_normal {r : Recogniser} {line : List Char} {found : Found} (h : r.line? line = some found) :
    ∃ word body, marker? r.keywords line = some (word, body) ∧
      let unprioritised := removePriority (trim body)
      let unassigned := removeMarked '@' unprioritised
      let untagged := removeMarked '#' unassigned
      found.content = "[" ++ found.kind ++ "] " ++ String.ofList (tidy untagged) ∧ Normal (tidy untagged) ∧
      tidy untagged = cleanedByPatterns (trim body) ∧
      (∀ s ∈ unassigned :: untagged :: tidied untagged, NoneMarked (· == '@') s) ∧
      (∀ s ∈ untagged :: tidied untagged, NoneMarked (· == '#') s) ∧
      (∀ s ∈ tidied untagged, SingleSpaced s) ∧
      ∀ s ∈ unprioritised :: unassigned :: untagged :: tidied untagged,
        (longestWords s).Sublist ((longestWords (trim body)).eraseP isPriorityWord) := by
  obtain ⟨⟨word, body⟩, hm, rfl⟩ := Option.map_eq_some_iff.mp h
  refine ⟨word, body, hm, ?_⟩
  intro unprioritised unassigned untagged
  have content := describe_content word body
  rw [← cleaned_eq_tidy] at content
  have at_mark : isWord '@' = false := by decide
  have tag_mark : isWord '#' = false := by decide
  have unassigned_at : NoneMarked (· == '@') unassigned := noneMarked_removeMarked at_mark unprioritised
  have untagged_at : NoneMarked (· == '@') untagged := unassigned_at.removeMarked at_mark tag_mark
  have untagged_tag : NoneMarked (· == '#') untagged := noneMarked_removeMarked tag_mark unassigned
  have words : longestWords unprioritised = (longestWords (trim body)).eraseP isPriorityWord :=
    longestWords_removePriority (trim body)
  have fewer : (longestWords unassigned).Sublist (longestWords unprioritised) :=
    longestWords_removeMarked at_mark unprioritised
  have fewest : (longestWords untagged).Sublist (longestWords unassigned) := longestWords_removeMarked tag_mark unassigned
  refine ⟨content, normal_cleaned (trim body), (cleanedByPatterns_eq _).symm, ?_, ?_, singleSpaced_tidied untagged, ?_⟩
  · exact List.forall_mem_cons.mpr ⟨unassigned_at, List.forall_mem_cons.mpr ⟨untagged_at, untagged_at.tidied rfl⟩⟩
  · exact List.forall_mem_cons.mpr ⟨untagged_tag, untagged_tag.tidied rfl⟩
  · rw [← words]
    refine List.forall_mem_cons.mpr ⟨.refl _, List.forall_mem_cons.mpr ⟨fewer, List.forall_mem_cons.mpr
      ⟨fewest.trans fewer, fun s hs => ?_⟩⟩⟩
    rw [longestWords_tidied untagged s hs]
    exact fewest.trans fewer

/-- Without the priority the `@` stands in front of `bob`, and without `@a` the two `#` stand side by side. -/
theorem line?_normal_joined_marks :
    ∃ found, Recogniser.line? ⟨["TODO".toList]⟩ "// TODO: @high - bob\u00a0 #@a#x\u3000 : h".toList = some found ∧
      found.content = "[TODO] # : h" ∧ Normal "# : h".toList := by
  have hm : marker? ["TODO".toList] "// TODO: @high - bob\u00a0 #@a#x\u3000 : h".toList =
      some ("TODO".toList, "@high - bob\u00a0 #@a#x\u3000 : h".toList) := by decide +kernel
  have h : Recogniser.line? ⟨["TODO".toList]⟩ "// TODO: @high - bob\u00a0 #@a#x\u3000 : h".toList =
      some (describe "TODO".toList "@high - bob\u00a0 #@a#x\u3000 : h".toList) := by
    rw [Recogniser.line?, hm]
    rfl
  obtain ⟨word, body, hm', content, normal, -⟩ := line?_normal h
  obtain ⟨rfl, rfl⟩ := Prod.mk.inj (Option.some.inj (hm'.symm.trans hm))
  have text : tidy (removeMarked '#' (removeMarked '@' (removePriority (trim "@high - bob\u00a0 #@a#x\u3000 : h".toList)))) =
      "# : h".toList := by decide +kernel
  rw [text] at content normal
  exact ⟨_, h, by rw [content]; decide +kernel, normal⟩

end MarkerScan.Marker
