import MarkerScan.Marker.Pattern
import MarkerScan.Proofs.Marker.Metadata
import MarkerScan.Proofs.Marker.Pattern
import MarkerScan.Proofs.Text.AsciiCase
import MarkerScan.Proofs.Text.Search
/-
  MarkerScan.Proofs.Marker.MetadataPattern — the metadata of a body is what its patterns find.

  The words for the levels are matched under case folding, but nothing outside ASCII folds as
  one of their letters (`folds_iff_upper`). So the priority pattern matches right where a longest word
  names a level, and goes on to the end of its separator (`matchHere?_priority`), and a mark
  pattern matches a mark with the longest word behind it (`matchHere?_marked`).

  From these, along the words of a body:
  - `search?_priority`: the first match is the first word that names a level;
  - `words_mark` / `search?_mark`: all matches, and the first of them, are the words behind a mark;
  - `cleanedByPatterns_eq`: what is left when the patterns are taken out one after the other is
    the cleaned text.
-/

namespace MarkerScan.Marker

open Text Pattern

/-! ## The letters of the words for the levels -/

theorem isRun_of_mem_priorityWords {name : List Char} (hn : name ∈ priorityWords) : IsRun name := by
  have all : ∀ name ∈ priorityWords, IsRun name := by decide
  exact all name hn

theorem fold_eq_iff_toUpper {k d : Char} (hk : k ∈ priorityWords.flatten) : fold d = fold k ↔ d.toUpper = k := by
  have word : isWord k = true := by
    obtain ⟨name, hn, hk⟩ := List.mem_flatten.mp hk
    exact (isRun_of_mem_priorityWords hn).2 k hk
  have cases_agree : isWord d = true → (d.toLower = k.toLower ↔ d.toUpper = k) := by
    intro hd
    let agrees (d : Char) := priorityWords.flatten.all fun k => (d.toLower == k.toLower) == (d.toUpper == k)
    have agree : agrees d = true := forall_isWord (by decide +kernel) hd
    have at_k := List.all_eq_true.mp agree k hk
    rw [beq_iff_eq, Bool.eq_iff_iff, beq_iff_eq, beq_iff_eq] at at_k
    exact at_k
  constructor
  · intro h
    -- Neither of the two that fold into ASCII from outside folds to one of these letters.
    have apart : (priorityWords.flatten.all fun k => fold '\u017F' != fold k && fold '\u212A' != fold k) = true := by
      decide +kernel
    have at_k := List.all_eq_true.mp apart k hk
    simp only [Bool.and_eq_true, bne_iff_ne] at at_k
    have hd : isWord d = true := by
      refine isWord_of_fold word h ?_ ?_
      · rintro rfl
        exact at_k.1 h
      · rintro rfl
        exact at_k.2 h
    rw [fold_of_isWord hd, fold_of_isWord word] at h
    exact (cases_agree hd).mp h
  · intro h
    have hd : isWord d = true := isWord_of_toUpper (h ▸ word)
    rw [fold_of_isWord hd, fold_of_isWord word]
    exact (cases_agree hd).mpr h

/-- A text has the letters of such a word under folding when it is that word in ASCII capitals. -/
theorem folds_iff_upper {name : List Char} (hn : name ∈ priorityWords) (m : List Char) :
    m.map fold = name.map fold ↔ asciiUpper m = name := by
  have letters : ∀ k ∈ name, k ∈ priorityWords.flatten := fun k hk => List.mem_flatten.mpr ⟨name, hn, hk⟩
  clear hn
  rw [asciiUpper]
  induction name generalizing m with
  | nil => simp
  | cons k name ih =>
    cases m with
    | nil => simp
    | cons d m =>
      have first := fold_eq_iff_toUpper (d := d) (letters k List.mem_cons_self)
      have further := ih m fun e he => letters e (List.mem_cons_of_mem k he)
      rw [List.map_cons, List.map_cons, List.map_cons, List.cons.injEq, List.cons.injEq]
      exact and_congr first further

theorem isPriorityWord_iff {w : List Char} : isPriorityWord w = true ↔ asciiUpper w ∈ priorityWords := by
  have order : (Priority.tokens.map (·.1)).Perm priorityWords := by decide
  rw [isPriorityWord, Priority.ofToken?, List.lookup_isSome_iff, ← order.mem_iff, List.mem_map]
  simp only [beq_iff_eq]
  constructor
  · rintro ⟨t, ht, e⟩
    exact ⟨t, ht, e.symm⟩
  · rintro ⟨t, ht, e⟩
    exact ⟨t, ht, e.symm⟩

/-! ## The match of a priority -/

section
variable {β : Type} {b r : List Char} {g : List (List Char)} (k : List Char → List (List Char) → β)

theorem first_many_rest (fits : Char → Bool) :
    (many fits).first (fun t => some (k t.rest t.groups)) ⟨b, r, g⟩ = some (k (r.dropWhile fits) g) :=
  first_many_of_total fun _ => rfl

/-- A separator and the blanks behind it, if the text starts with a separator, and else the blanks. -/
theorem first_optional_separator :
    (seq (optional (one isSeparator)) (many isBlank)).first (fun t => some (k t.rest t.groups)) ⟨b, r, g⟩ =
      some (k (trimStart (if r.head?.any isSeparator then r.tail else r)) g) := by
  rw [first_seq, Pattern.optional, first_alt, first_empty, first_many_rest]
  cases r with
  | nil => rfl
  | cons c r =>
    rw [first_one_cons, first_many_rest]
    cases h : isSeparator c with
    | true => simp [h, trimStart]
    | false => simp [h, trimStart]

/-- Blanks, a separator and blanks are read as far as they reach. -/
theorem first_separator :
    separatorPattern.first (fun t => some (k t.rest t.groups)) ⟨b, r, g⟩ = some (k (dropSeparator r) g) := by
  rw [separatorPattern, first_seq, first_many_of_total fun t => by rw [first_optional_separator]; rfl, behind,
    first_optional_separator, ← trimStart, dropSeparator]
  cases hs : trimStart r with
  | nil => rfl
  | cons c rest =>
    have kept : trimStart (c :: rest) = c :: rest := by rw [← hs, trimStart_trimStart]
    by_cases hc : c = ':' ∨ c = '-'
    · have sep : isSeparator c = true := by simpa [isSeparator] using hc
      simp [sep, hc]
    · have sep : isSeparator c = false := by simpa [isSeparator] using hc
      simp [sep, hc, kept]

/-- One of the words matches where the longest word is that one in capitals. -/
theorem first_priorityWord {name : List Char} (hn : name ∈ priorityWords) :
    (group (literal name)).first ((seq edge separatorPattern).first fun t => some (k t.rest t.groups)) ⟨b, r, g⟩ =
      if asciiUpper (r.takeWhile isWord) = name then
        some (k (dropSeparator (r.dropWhile isWord)) (g ++ [r.takeWhile isWord]))
      else none := by
  have split : r.takeWhile isWord ++ r.dropWhile isWord = r := List.takeWhile_append_dropWhile
  rw [first_group, first_literal]
  cases hs : sameLetters? name r with
  | none =>
    rw [if_neg]
    intro h
    rw [sameLetters?_eq_some_iff.mpr ⟨split.symm, (folds_iff_upper hn _).mpr h⟩] at hs
    cases hs
  | some p =>
    obtain ⟨m, r'⟩ := p
    obtain ⟨rfl, folds⟩ := sameLetters?_eq_some_iff.mp hs
    have spelled : asciiUpper m = name := (folds_iff_upper hn m).mp folds
    have run : IsRun m := isRun_of_isPriorityWord (isPriorityWord_iff.mpr (spelled ▸ hn))
    have last : inWord (m.reverse ++ b).head? = true := by
      rw [List.head?_append_of_ne_nil _ (by simpa using run.1), List.head?_reverse, List.getLast?_eq_some_getLast run.1]
      exact run.2 _ (List.getLast_mem run.1)
    simp only [Reading.remember, List.length_append, Nat.add_sub_cancel, List.take_left, first_seq, first_edge, wordEdge,
      last, first_separator]
    by_cases hr : NoWordAhead r'
    · have longest := takeWhile_run_append run.2 hr
      rw [longest, dropWhile_run_append run.2 hr, if_pos spelled, noWordAhead_iff.mp hr]
      rfl
    · -- The longest word goes on behind the letters, so it is another one.
      have next : inWord r'.head? = true := by simpa [noWordAhead_iff] using hr
      rw [next, if_neg (by decide), if_neg]
      intro h
      have front : m <+: (m ++ r').takeWhile isWord := by
        rw [List.takeWhile_append_of_pos run.2]
        exact List.prefix_append _ _
      have same : (m ++ r').takeWhile isWord = m := by
        refine (front.eq_of_length ?_).symm
        have := congrArg List.length (h.trans spelled.symm)
        simpa [asciiUpper] using this.symm
      have whole : (m ++ r').dropWhile isWord = r' := by
        rw [same] at split
        exact List.append_cancel_left split
      exact hr (whole ▸ noWordAhead_dropWhile _)

end

theorem findSome?_eq_of_eq {α β : Type} [DecidableEq α] (x : α) (y : β) (l : List α) :
    (l.findSome? fun a => if x = a then some y else none) = if x ∈ l then some y else none := by
  induction l with
  | nil => rfl
  | cons a l ih =>
    rw [List.findSome?_cons, ih]
    by_cases h : x = a
    · simp [h]
    · simp [h]

/-- A priority matches where a longest word starts that names a level. -/
theorem matchHere?_priority (b r : List Char) :
    (priorityPattern.matchHere? b r).map (fun t => (t.rest, t.groups)) =
      if inWord b.head? = false ∧ isPriorityWord (r.takeWhile isWord) = true then
        some (dropSeparator (r.dropWhile isWord), [r.takeWhile isWord])
      else none := by
  have words : (group (anyOf (priorityWords.map literal))).first
      ((seq edge separatorPattern).first fun t => some (t.rest, t.groups)) ⟨b, r, []⟩ =
        if isPriorityWord (r.takeWhile isWord) then some (dropSeparator (r.dropWhile isWord), [r.takeWhile isWord])
        else none := by
    have each : ∀ name ∈ priorityWords, _ = _ := fun name hn =>
      (first_group _).symm.trans (first_priorityWord (b := b) (r := r) (g := []) Prod.mk hn)
    rw [first_group, first_anyOf, List.findSome?_map]
    refine (findSome?_congr each).trans ?_
    rw [findSome?_eq_of_eq]
    by_cases hp : isPriorityWord (r.takeWhile isWord) = true
    · rw [if_pos (isPriorityWord_iff.mp hp), if_pos hp]
      rfl
    · rw [if_neg (fun h => hp (isPriorityWord_iff.mpr h)), if_neg hp]
  rw [matchHere?_eq_first, first_map, priorityPattern, first_seq, first_edge]
  simp only [first_seq _ (seq edge separatorPattern), Option.map_some, words]
  cases hp : isPriorityWord (r.takeWhile isWord) with
  | true => simp [wordEdge, inWord_of_isPriorityWord hp]
  | false => simp

/-! ## The first priority of a text -/

theorem matchHere?_priority_none {b r : List Char}
    (h : inWord b.head? = true ∨ isPriorityWord (r.takeWhile isWord) = false) : priorityPattern.matchHere? b r = none := by
  have here := matchHere?_priority b r
  rw [if_neg (by rcases h with h | h <;> simp [h])] at here
  exact Option.map_eq_none_iff.mp here

/-- No priority starts within a word. -/
theorem searchFrom?_within {w : List Char} (hw : ∀ c ∈ w, isWord c = true) {b : List Char} (hb : inWord b.head? = true)
    (a : List Char) : priorityPattern.searchFrom? b (w ++ a) = priorityPattern.searchFrom? (w.reverse ++ b) a := by
  induction w generalizing b with
  | nil => rfl
  | cons c w ih =>
    have last : inWord (c :: b).head? = true := hw c List.mem_cons_self
    rw [List.cons_append, searchFrom?, matchHere?_priority_none (.inl hb)]
    simp only
    rw [ih (fun d hd => hw d (List.mem_cons_of_mem c hd)) last, List.reverse_cons, List.append_assoc]
    rfl

/-- What the search for a priority says of a text: with no match there is no priority word, and a match is the
    first one, with what `removePriority` leaves in front of it and behind it. -/
def PriorityMatch (b s : List Char) : Option Match → Prop
  | none => priority? s = none ∧ removePriority s = s
  | some m => ∃ word, m.groups = [word] ∧ isPriorityWord word = true ∧ priority? s = Priority.ofToken? word ∧
      m.front ++ m.behind = b.reverse ++ removePriority s

/-- A front of the text that has no priority word is passed over. -/
theorem PriorityMatch.past {b x a : List Char} {m : Option Match} (read : priority? (x ++ a) = priority? a)
    (left : removePriority (x ++ a) = x ++ removePriority a) (h : PriorityMatch (x.reverse ++ b) a m) :
    PriorityMatch b (x ++ a) m := by
  cases m with
  | none =>
    obtain ⟨none_read, all_left⟩ := h
    exact ⟨read.trans none_read, by rw [left, all_left]⟩
  | some m =>
    obtain ⟨word, groups, named, first, text⟩ := h
    refine ⟨word, groups, named, read.trans first, ?_⟩
    rw [text, left, List.reverse_append, List.reverse_reverse, List.append_assoc]

theorem searchFrom?_named {w a : List Char} (named : isPriorityWord w = true) (ha : NoWordAhead a) {b : List Char}
    (hb : inWord b.head? = false) : PriorityMatch b (w ++ a) (priorityPattern.searchFrom? b (w ++ a)) := by
  have hw : IsRun w := isRun_of_isPriorityWord named
  have longest := takeWhile_run_append hw.2 ha
  have here := matchHere?_priority b (w ++ a)
  rw [longest, dropWhile_run_append hw.2 ha, if_pos ⟨hb, named⟩] at here
  obtain ⟨t, ht, e⟩ := Option.map_eq_some_iff.mp here
  obtain ⟨rest, groups⟩ := Prod.mk.inj e
  have found : priorityPattern.searchFrom? b (w ++ a) = some ⟨b.reverse, t.rest, t.groups⟩ := by
    obtain ⟨c, w, rfl⟩ := List.exists_cons_of_ne_nil hw.1
    rw [List.cons_append] at ht ⊢
    rw [searchFrom?, ht]
  obtain ⟨p, hp⟩ := Option.isSome_iff_exists.mp named
  rw [found]
  refine ⟨w, groups, named, ?_, ?_⟩
  · rw [priority?_run hw ha, hp, Option.some_or]
  · rw [removePriority_run hw ha, if_pos named, ← rest]

theorem searchFrom?_priority (s : List Char) : ∀ b, inWord b.head? = false ∨ NoWordAhead s →
    PriorityMatch b s (priorityPattern.searchFrom? b s) := by
  induction s using word_induction with
  | nil =>
    intro b _
    rw [searchFrom?, matchHere?_priority_none (r := []) (.inr isPriorityWord_nil)]
    exact ⟨rfl, rfl⟩
  | run w a hw ha ih =>
    intro b hb
    obtain ⟨c, v, rfl⟩ := List.exists_cons_of_ne_nil hw.1
    have first : isWord c = true := hw.2 c List.mem_cons_self
    have starts : inWord b.head? = false := hb.resolve_right fun h => by
      have := noWordAhead_cons.mp h
      rw [first] at this
      cases this
    by_cases named : isPriorityWord (c :: v) = true
    · exact searchFrom?_named named ha starts
    · have unnamed : Priority.ofToken? (c :: v) = none := by simpa [isPriorityWord] using named
      have no_match : priorityPattern.matchHere? b (c :: (v ++ a)) = none := by
        refine matchHere?_priority_none (.inr ?_)
        rw [← List.cons_append, takeWhile_run_append hw.2 ha]
        simpa using named
      have passed : priorityPattern.searchFrom? b (c :: v ++ a) =
          priorityPattern.searchFrom? ((c :: v).reverse ++ b) a := by
        rw [List.cons_append, searchFrom?, no_match]
        simp only
        rw [searchFrom?_within (b := c :: b) (fun d hd => hw.2 d (List.mem_cons_of_mem c hd)) first]
        simp
      rw [passed]
      refine .past ?_ ?_ (ih _ (.inr ha))
      · rw [priority?_run hw ha, unnamed, Option.none_or]
      · rw [removePriority_run hw ha, if_neg named]
  | other c s hc ih _ =>
    intro b _
    have no_match : priorityPattern.matchHere? b (c :: s) = none := by
      refine matchHere?_priority_none (.inr ?_)
      rw [takeWhile_of_noWordAhead (noWordAhead_cons.mpr hc), isPriorityWord_nil]
    rw [searchFrom?, no_match]
    exact .past (x := [c]) (priority?_other hc s) (removePriority_other hc s) (ih (c :: b) (.inl hc))

theorem search?_priority (s : List Char) : PriorityMatch [] s (priorityPattern.search? s) :=
  searchFrom?_priority s [] (.inl rfl)

/-! ## The words behind a mark -/

section
variable {mark : Char} {b : List Char}

theorem matchHere?_marked {w a : List Char} (hw : IsRun w) (ha : NoWordAhead a) :
    (markPattern mark).matchHere? b (mark :: (w ++ a)) = some ⟨w.reverse ++ mark :: b, a, [w]⟩ := by
  obtain ⟨c, v, rfl⟩ := List.exists_cons_of_ne_nil hw.1
  have run : ∀ d ∈ v, isWord d = true := fun d hd => hw.2 d (List.mem_cons_of_mem c hd)
  have longest := takeWhile_run_append run ha
  have rest : (v ++ a).dropWhile isWord = a := dropWhile_run_append run ha
  have taken : (c :: v ++ a).take ((c :: v ++ a).length - a.length) = c :: v := by
    rw [List.length_append, Nat.add_sub_cancel, List.take_left]
  rw [matchHere?_eq_first, markPattern, first_seq, first_one_cons, if_pos (beq_self_eq_true mark), first_group, first_seq,
    List.cons_append, first_one_cons, if_pos (hw.2 c List.mem_cons_self), first_many_of_total fun _ => rfl]
  rw [List.cons_append] at taken
  simp only [behind, Reading.remember, longest, rest, taken]
  simp

theorem matchHere?_unmarked {c : Char} {s : List Char} (h : c ≠ mark ∨ NoWordAhead s) :
    (markPattern mark).matchHere? b (c :: s) = none := by
  rw [matchHere?_eq_first, markPattern, first_seq, first_one_cons]
  split
  · rename_i hc
    have hs : NoWordAhead s := h.resolve_left (by simpa using hc)
    rw [first_group, first_seq]
    cases s with
    | nil => rfl
    | cons d s => rw [first_one_cons, noWordAhead_cons.mp hs, if_neg (by decide)]
  · rfl

theorem past_word {w : List Char} (hm : isWord mark = false) (hw : ∀ c ∈ w, isWord c = true) (a : List Char) :
    (markPattern mark).partsFrom b 0 (w ++ a) = w.map .other ++ (markPattern mark).partsFrom (w.reverse ++ b) 0 a ∧
      (markPattern mark).searchFrom? b (w ++ a) = (markPattern mark).searchFrom? (w.reverse ++ b) a := by
  induction w generalizing b with
  | nil => exact ⟨rfl, rfl⟩
  | cons c w ih =>
    have apart : c ≠ mark := by
      rintro rfl
      rw [hw c List.mem_cons_self] at hm
      cases hm
    have no_match : (markPattern mark).matchHere? b (c :: (w ++ a)) = none := matchHere?_unmarked (.inl apart)
    obtain ⟨parts, search⟩ := ih (b := c :: b) fun d hd => hw d (List.mem_cons_of_mem c hd)
    rw [List.cons_append, partsFrom_other no_match, parts, searchFrom?, no_match, List.reverse_cons, List.append_assoc]
    exact ⟨rfl, search⟩

/-- What the matches of a mark pattern say of a text. -/
structure MarkMatches (mark : Char) (b s : List Char) : Prop where
  words : ((markPattern mark).partsFrom b 0 s).filterMap Part.word? = markedWords mark s
  left : ((markPattern mark).partsFrom b 0 s).flatMap (Part.writtenWith []) = removeMarked mark s
  first : ((markPattern mark).searchFrom? b s).bind Match.word? = (markedWords mark s).head?

theorem MarkMatches.run {w a : List Char} (hm : isWord mark = false) (hw : IsRun w) (ha : NoWordAhead a)
    (h : MarkMatches mark (w.reverse ++ b) a) : MarkMatches mark b (w ++ a) := by
  obtain ⟨parts, search⟩ := past_word (b := b) hm hw.2 a
  have plain : (w.map Part.other).filterMap Part.word? = [] := by simp [List.filterMap_eq_nil_iff, Part.word?]
  have written : (w.map Part.other).flatMap (Part.writtenWith []) = w := by simp [List.flatMap_map, Part.writtenWith]
  constructor
  · rw [parts, List.filterMap_append, plain, h.words, markedWords_run hw.2 ha, List.nil_append]
  · rw [parts, List.flatMap_append, written, h.left, removeMarked_run hw ha]
  · rw [search, h.first, markedWords_run hw.2 ha]

theorem MarkMatches.other {c : Char} {s : List Char} (hc : isWord c = false) (hs : c ≠ mark ∨ NoWordAhead s)
    (h : MarkMatches mark (c :: b) s) : MarkMatches mark b (c :: s) := by
  have no_match : (markPattern mark).matchHere? b (c :: s) = none := matchHere?_unmarked hs
  constructor
  · rw [partsFrom_other no_match, List.filterMap_cons, h.words, markedWords_other hc hs]
    rfl
  · have kept : removeMarked mark (c :: s) = c :: removeMarked mark s :=
      hs.elim (fun h => removeMarked_plain hc h s) (removeMarked_lone hc)
    rw [partsFrom_other no_match, List.flatMap_cons, h.left, kept]
    rfl
  · rw [searchFrom?, no_match, markedWords_other hc hs]
    exact h.first

theorem MarkMatches.marked {w a : List Char} (hm : isWord mark = false) (hw : IsRun w) (ha : NoWordAhead a)
    (h : MarkMatches mark (w.reverse ++ mark :: b) a) : MarkMatches mark b (mark :: (w ++ a)) := by
  have here : (markPattern mark).matchHere? b (mark :: (w ++ a)) = some ⟨w.reverse ++ mark :: b, a, [w]⟩ :=
    matchHere?_marked hw ha
  constructor
  · rw [partsFrom_found rfl here, List.filterMap_cons, h.words, markedWords_marked hm hw ha]
    rfl
  · rw [partsFrom_found rfl here, List.flatMap_cons, h.left, removeMarked_marked hm hw ha]
    rfl
  · rw [searchFrom?, here, markedWords_marked hm hw ha]
    rfl

theorem markMatches (hm : isWord mark = false) (s : List Char) : ∀ b, MarkMatches mark b s := by
  induction s using word_induction with
  | nil => exact fun _ => ⟨rfl, rfl, rfl⟩
  | run w a hw ha ih => exact fun b => .run hm hw ha (ih _)
  | other c s hc ih ihBehind =>
    intro b
    by_cases h : c ≠ mark ∨ NoWordAhead s
    · exact .other hc h (ih _)
    · obtain ⟨rfl, ahead⟩ : c = mark ∧ ¬ NoWordAhead s := by simpa using h
      obtain ⟨w, split, hw, ha⟩ := (noWordAhead_or_run s).resolve_left ahead
      rw [split]
      exact .marked hm hw ha (ihBehind _)

theorem replaceAll_mark (hm : isWord mark = false) (s : List Char) :
    (markPattern mark).replaceAll [] s = removeMarked mark s :=
  (markMatches hm s []).left

end

/-! ## The cleaned text -/

theorem removeFirst_priority (s : List Char) : priorityPattern.removeFirst s = removePriority s := by
  have found := search?_priority s
  unfold removeFirst
  cases hm : priorityPattern.search? s with
  | none =>
    rw [hm] at found
    exact found.2.symm
  | some m =>
    rw [hm] at found
    obtain ⟨word, -, -, -, text⟩ := found
    exact text

theorem removeFront_colon (s : List Char) : colonPattern.removeFront s = dropColon s := by
  have blocked : ∀ b c r g, isBlank c = true →
      (seq (one (· == ':')) (many isBlank)).first some ⟨b, c :: r, g⟩ = none := by
    intro b c r g hc
    rw [first_seq, first_one_cons, if_neg]
    intro h
    rw [beq_iff_eq.mp h] at hc
    exact absurd hc (by decide)
  rw [removeFront, matchHere?_eq_first, colonPattern, first_seq, first_many_of_blocked blocked, behind, ← trimStart,
    first_seq]
  unfold dropColon
  cases hs : trimStart s with
  | nil => rfl
  | cons c rest =>
    rw [first_one_cons]
    by_cases hc : c = ':'
    · subst hc
      rw [if_pos (beq_self_eq_true ':'), first_many_some]
      rfl
    · rw [if_neg (by simpa using hc)]
      simp only
      split
      · rename_i h
        exact absurd (List.cons.inj h).1 hc
      · rfl

/-- Taking the patterns out one after the other leaves the cleaned text. -/
theorem cleanedByPatterns_eq (s : List Char) : cleanedByPatterns s = cleaned s := by
  simp only [cleanedByPatterns, cleaned, removeFirst_priority, replaceAll_mark (show isWord '@' = false by decide),
    replaceAll_mark (show isWord '#' = false by decide), blanksPattern, replaceAll_blanks, removeFront_colon]

end MarkerScan.Marker
