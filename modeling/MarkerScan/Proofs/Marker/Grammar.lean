import MarkerScan.Proofs.Marker.Pattern
/-
  MarkerScan.Proofs.Marker.Grammar — which lines hold a marker, and which keyword it has.

  `Reads f keyword word rest line` is the grammar of a marker line: blanks, the opener of
  `f`, blanks, a spelling of the keyword, and a rest that is not empty; a keyword that ends
  in a word character ends at a word edge. `Chosen` is the reading with the first keyword
  of a list that has one.

  Proved, for lines without a line feed:
  (1) A form has a marker exactly when its comment has a chosen reading, and the word of the
      marker is the one read (`marker?_eq_some_iff`): the choice between starts of the body
      never loses a marker, since some start always works (`body?_isSome_iff`).
  (2) No line opens in two forms (`form_unique`), so the order in which they are tried makes
      no difference (`findSome?_perm_of_unique`).
  (3) Together with the patterns of the forms: `line?_recognises`.
-/

namespace MarkerScan.Marker

open Text

structure Reads (f : Form) (keyword word rest line : List Char) : Prop where
  layout : ∃ indent gap, AllBlank indent ∧ AllBlank gap ∧ line = indent ++ f.opener ++ gap ++ word ++ rest
  letters : word.map fold = keyword.map fold
  rest_ne_nil : rest ≠ []
  /-- Of the last character of the word and the first one behind it, exactly one is in a word. -/
  edge : inWord keyword.getLast? = true → inWord word.getLast? ≠ inWord rest.head?

/-- A reading with a keyword of the list, while no keyword before it in the list has one. -/
structure Chosen (f : Form) (keywords : List (List Char)) (keyword word rest line : List Char) : Prop where
  reads : Reads f keyword word rest line
  first : ∃ earlier later, keywords = earlier ++ keyword :: later ∧ ∀ k ∈ earlier, ∀ w r, ¬ Reads f k w r line

/-! ## The front of the line -/

theorem opened?_eq_some_iff {f : Form} (hf : f ∈ forms) {line s : List Char} :
    f.opened? line = some s ↔ (∀ c, s.head? = some c → isBlank c = false) ∧
      ∃ indent gap, AllBlank indent ∧ AllBlank gap ∧ line = indent ++ f.opener ++ gap ++ s := by
  obtain ⟨d, rest, ho, hd⟩ := startsSolid_opener hf
  simp only [Form.opened?, Option.map_eq_some_iff, List.isPrefixOf?_eq_some_iff_append_eq]
  constructor
  · rintro ⟨t, ht, rfl⟩
    refine ⟨fun c hc => isBlank_head_trimStart hc, line.takeWhile isBlank, t.takeWhile isBlank,
      allBlank_takeWhile line, allBlank_takeWhile t, ?_⟩
    rw [List.append_assoc, takeWhile_append_trimStart, List.append_assoc, ht, takeWhile_append_trimStart]
  · rintro ⟨hs, indent, gap, hi, hg, rfl⟩
    refine ⟨gap ++ s, ?_, trimStart_append hg hs⟩
    rw [List.append_assoc, List.append_assoc, trimStart_append hi]
    intro c hc
    rw [ho] at hc
    have : d = c := by simpa using hc
    rwa [← this]

theorem endsWord_iff {keyword word rest : List Char} :
    endsWord keyword word rest = true ↔
      (inWord keyword.getLast? = true → inWord word.getLast? ≠ inWord rest.head?) := by
  simp only [endsWord, wordEdge]
  cases inWord keyword.getLast? <;> simp

theorem reads_iff {f : Form} (hf : f ∈ forms) {keyword word rest line : List Char} (hk : StartsSolid keyword) :
    Reads f keyword word rest line ↔
      ∃ s, f.opened? line = some s ∧ keywordAt? keyword s = some (word, rest) ∧ rest ≠ [] := by
  constructor
  · rintro ⟨⟨indent, gap, hi, hg, rfl⟩, hw, hr, he⟩
    obtain ⟨d, ds, rfl, hd⟩ := startsSolid_of_folds hk hw
    refine ⟨(d :: ds) ++ rest, (opened?_eq_some_iff hf).mpr ⟨?_, indent, gap, hi, hg, by simp⟩,
      keywordAt?_eq_some_iff.mpr ⟨rfl, hw, endsWord_iff.mpr he⟩, hr⟩
    intro e h
    have : d = e := by simpa using h
    rwa [← this]
  · rintro ⟨s, hs, hk, hr⟩
    obtain ⟨-, indent, gap, hi, hg, rfl⟩ := (opened?_eq_some_iff hf).mp hs
    obtain ⟨rfl, hw, he⟩ := keywordAt?_eq_some_iff.mp hk
    exact ⟨⟨indent, gap, hi, hg, by simp⟩, hw, hr, endsWord_iff.mp he⟩

/-! ## A body is found when anything is left for it -/

theorem untilCloser_isSome {closer read s : List Char} (hn : '\n' ∉ s) : (untilCloser closer read s).isSome = true := by
  induction s generalizing read with
  | nil => rfl
  | cons c s ih =>
    rw [List.mem_cons, not_or] at hn
    rw [untilCloser]
    split
    · rfl
    · rw [if_neg (Ne.symm hn.1)]
      exact ih hn.2

theorem bodyFrom?_isSome {f : Form} {c : Char} {s : List Char} (hn : '\n' ∉ c :: s) :
    (f.bodyFrom? (c :: s)).isSome = true := by
  rw [List.mem_cons, not_or] at hn
  rw [Form.bodyFrom?, if_neg (Ne.symm hn.1)]
  cases f.closer with
  | none => rfl
  | some closer => exact untilCloser_isSome hn.2

theorem bodyWithin?_isSome {f : Form} {s : List Char} (h : (f.bodyFrom? s).isSome = true) (n : Nat) :
    (f.bodyWithin? s n).isSome = true := by
  induction n with
  | zero => exact h
  | succ n ih =>
    rw [Form.bodyWithin?]
    split
    · rfl
    · exact ih

theorem body?_isSome_iff {f : Form} {rest : List Char} (hn : '\n' ∉ rest) :
    (f.body? rest).isSome = true ↔ rest ≠ [] := by
  cases rest with
  | nil => simp [Form.body?, skippable, Form.bodyWithin?, Form.bodyFrom?]
  | cons c s => simpa [Form.body?] using bodyWithin?_isSome (bodyFrom?_isSome hn) _

/-! ## The marker of one form -/

theorem not_mem_rest {f : Form} {keyword word rest line : List Char} (h : Reads f keyword word rest line)
    (hn : '\n' ∉ line) : '\n' ∉ rest := by
  obtain ⟨indent, gap, -, -, rfl⟩ := h.layout
  intro hr
  exact hn (List.mem_append_right _ hr)

/-- What one keyword gives is a body behind a reading with it. -/
theorem markerWith?_eq_some_iff {f : Form} (hf : f ∈ forms) {k line s word body : List Char} (hk : StartsSolid k)
    (hs : f.opened? line = some s) :
    f.markerWith? k s = some (word, body) ↔ ∃ rest, Reads f k word rest line ∧ f.body? rest = some body := by
  constructor
  · intro h
    cases ha : keywordAt? k s with
    | none => simp [Form.markerWith?, ha] at h
    | some p =>
      obtain ⟨w, rest⟩ := p
      simp only [Form.markerWith?, ha, Option.map_eq_some_iff, Prod.mk.injEq] at h
      obtain ⟨b, hb, rfl, rfl⟩ := h
      refine ⟨rest, (reads_iff hf hk).mpr ⟨s, hs, ha, ?_⟩, hb⟩
      rintro rfl
      simp [Form.body?, skippable, Form.bodyWithin?, Form.bodyFrom?] at hb
  · rintro ⟨rest, hr, hb⟩
    obtain ⟨s', hs', ha, -⟩ := (reads_iff hf hk).mp hr
    rw [hs] at hs'
    obtain rfl := Option.some.inj hs'
    simp [Form.markerWith?, ha, hb]

theorem markerWith?_eq_none_iff {f : Form} (hf : f ∈ forms) {k line s : List Char} (hk : StartsSolid k)
    (hs : f.opened? line = some s) (hn : '\n' ∉ line) :
    f.markerWith? k s = none ↔ ∀ word rest, ¬ Reads f k word rest line := by
  constructor
  · intro h word rest hr
    have hb := (body?_isSome_iff (f := f) (not_mem_rest hr hn)).mpr hr.rest_ne_nil
    obtain ⟨body, hb⟩ := Option.isSome_iff_exists.mp hb
    rw [(markerWith?_eq_some_iff hf hk hs).mpr ⟨rest, hr, hb⟩] at h
    cases h
  · intro h
    rw [Option.eq_none_iff_forall_ne_some]
    rintro ⟨word, body⟩ hm
    obtain ⟨rest, hr, -⟩ := (markerWith?_eq_some_iff hf hk hs).mp hm
    exact h word rest hr

theorem marker?_eq_some_iff {f : Form} (hf : f ∈ forms) {keywords : List (List Char)}
    (hk : ∀ k ∈ keywords, StartsSolid k) {line word body : List Char} (hn : '\n' ∉ line) :
    f.marker? keywords line = some (word, body) ↔
      ∃ k rest, Chosen f keywords k word rest line ∧ f.body? rest = some body := by
  rw [Form.marker?]
  cases hs : f.opened? line with
  | none =>
    simp only [reduceCtorEq, false_iff, not_exists, not_and]
    rintro k rest ⟨hr, earlier, later, rfl, -⟩ -
    obtain ⟨s, hs', -⟩ := (reads_iff hf (hk k (by simp))).mp hr
    rw [hs] at hs'
    cases hs'
  | some s =>
    simp only
    rw [List.findSome?_eq_some_iff]
    constructor
    · rintro ⟨earlier, k, later, rfl, hm, he⟩
      obtain ⟨rest, hr, hb⟩ := (markerWith?_eq_some_iff hf (hk k (by simp)) hs).mp hm
      refine ⟨k, rest, ⟨hr, earlier, later, rfl, fun k' hk' => ?_⟩, hb⟩
      exact (markerWith?_eq_none_iff hf (hk k' (by simp [hk'])) hs hn).mp (he k' hk')
    · rintro ⟨k, rest, ⟨hr, earlier, later, rfl, he⟩, hb⟩
      refine ⟨earlier, k, later, rfl, (markerWith?_eq_some_iff hf (hk k (by simp)) hs).mpr ⟨rest, hr, hb⟩, ?_⟩
      intro k' hk'
      exact (markerWith?_eq_none_iff hf (hk k' (by simp [hk'])) hs hn).mpr (he k' hk')

/-! ## One form for a line -/

theorem form_unique {f g : Form} (hf : f ∈ forms) (hg : g ∈ forms) {line s t : List Char}
    (hs : f.opened? line = some s) (ht : g.opened? line = some t) : f = g := by
  have apart : ∀ f ∈ forms, ∀ g ∈ forms, f.opener <+: g.opener → f = g := by decide
  obtain ⟨s', hs', -⟩ := Option.map_eq_some_iff.mp hs
  obtain ⟨t', ht', -⟩ := Option.map_eq_some_iff.mp ht
  have hfp : f.opener <+: trimStart line := ⟨s', List.isPrefixOf?_eq_some_iff_append_eq.mp hs'⟩
  have hgp : g.opener <+: trimStart line := ⟨t', List.isPrefixOf?_eq_some_iff_append_eq.mp ht'⟩
  rcases List.prefix_or_prefix_of_prefix hfp hgp with h | h
  · exact apart f hf g hg h
  · exact (apart g hg f hf h).symm

theorem opened?_of_marker? {f : Form} {keywords : List (List Char)} {line : List Char}
    (h : (f.marker? keywords line).isSome = true) : ∃ s, f.opened? line = some s := by
  rw [Form.marker?] at h
  cases hs : f.opened? line with
  | none => simp [hs] at h
  | some s => exact ⟨s, rfl⟩

theorem findSome?_eq_some_iff_of_unique {α β : Type} {f : α → Option β} {l : List α}
    (hu : ∀ a ∈ l, ∀ b ∈ l, (f a).isSome = true → (f b).isSome = true → a = b) {y : β} :
    l.findSome? f = some y ↔ ∃ a ∈ l, f a = some y := by
  constructor
  · intro h
    exact List.exists_of_findSome?_eq_some h
  · rintro ⟨a, ha, hy⟩
    have hsome : (l.findSome? f).isSome = true := List.findSome?_isSome_iff.mpr ⟨a, ha, by rw [hy]; rfl⟩
    obtain ⟨z, hz⟩ := Option.isSome_iff_exists.mp hsome
    obtain ⟨b, hb, hbz⟩ := List.exists_of_findSome?_eq_some hz
    obtain rfl := hu a ha b hb (by rw [hy]; rfl) (by rw [hbz]; rfl)
    rw [hz, ← hbz, hy]

/-- When only one element gives anything, its place in the list makes no difference. -/
theorem findSome?_perm_of_unique {α β : Type} {f : α → Option β} {l l' : List α} (hp : l'.Perm l)
    (hu : ∀ a ∈ l, ∀ b ∈ l, (f a).isSome = true → (f b).isSome = true → a = b) :
    l'.findSome? f = l.findSome? f := by
  have hu' : ∀ a ∈ l', ∀ b ∈ l', (f a).isSome = true → (f b).isSome = true → a = b :=
    fun a ha b hb => hu a (hp.mem_iff.mp ha) b (hp.mem_iff.mp hb)
  apply Option.ext
  intro y
  rw [findSome?_eq_some_iff_of_unique hu, findSome?_eq_some_iff_of_unique hu']
  constructor
  · rintro ⟨a, ha, hy⟩; exact ⟨a, hp.mem_iff.mp ha, hy⟩
  · rintro ⟨a, ha, hy⟩; exact ⟨a, hp.mem_iff.mpr ha, hy⟩

/-- The marker of a line is that of the one form it opens in. -/
theorem marker?_unique {keywords : List (List Char)} {line : List Char} :
    ∀ f ∈ forms, ∀ g ∈ forms, (f.marker? keywords line).isSome = true → (g.marker? keywords line).isSome = true →
      f = g := by
  intro f hf g hg h h'
  obtain ⟨s, hs⟩ := opened?_of_marker? h
  obtain ⟨t, ht⟩ := opened?_of_marker? h'
  exact form_unique hf hg hs ht

theorem startsSolid_of_build [SizeLimit] {keywords : List (List Char)} {r : Recogniser} (hb : Recogniser.build keywords = .ok r) :
    r.keywords = usable keywords ∧ ∀ k ∈ r.keywords, StartsSolid k := by
  simp only [Recogniser.build] at hb
  split at hb
  · obtain rfl := Except.ok.inj hb
    exact ⟨rfl, fun k hk => startsSolid_of_mem_usable hk⟩
  · cases hb

theorem line_marker_iff {keywords : List (List Char)} (hk : ∀ k ∈ keywords, StartsSolid k) {line word body : List Char}
    (hn : '\n' ∉ line) :
    Marker.marker? keywords line = some (word, body) ↔
      ∃ f ∈ forms, ∃ k rest, Chosen f keywords k word rest line ∧ f.body? rest = some body := by
  rw [Marker.marker?, findSome?_eq_some_iff_of_unique marker?_unique]
  constructor
  · rintro ⟨f, hf, h⟩
    exact ⟨f, hf, (marker?_eq_some_iff hf hk hn).mp h⟩
  · rintro ⟨f, hf, h⟩
    exact ⟨f, hf, (marker?_eq_some_iff hf hk hn).mpr h⟩

/-- A keyword that reads a line is the chosen one or stands behind it. -/
theorem exists_chosen {f : Form} {keywords : List (List Char)} {line : List Char}
    (h : ∃ k ∈ keywords, ∃ word rest, Reads f k word rest line) :
    ∃ k word rest, Chosen f keywords k word rest line := by
  obtain ⟨k, hk, word, rest, hr⟩ := h
  induction keywords with
  | nil => cases hk
  | cons k' ks ih =>
    by_cases h' : ∃ w r, Reads f k' w r line
    · obtain ⟨w, r, h'⟩ := h'
      exact ⟨k', w, r, h', [], ks, rfl, by simp⟩
    · rcases List.mem_cons.mp hk with rfl | hk
      · exact absurd ⟨word, rest, hr⟩ h'
      · obtain ⟨k₂, w, r, hc, earlier, later, rfl, he⟩ := ih hk
        refine ⟨k₂, w, r, hc, k' :: earlier, later, rfl, ?_⟩
        intro k₃ hk₃
        rcases List.mem_cons.mp hk₃ with rfl | hk₃
        · exact fun w r h => h' ⟨w, r, h⟩
        · exact he k₃ hk₃

/-! ## The acceptance language -/

/-- The kind of a line is the word of its chosen reading, in capitals. -/
theorem line?_kind_iff {r : Recogniser} (hk : ∀ k ∈ r.keywords, StartsSolid k) {line : List Char} (hn : '\n' ∉ line)
    (kind : String) :
    (r.line? line).map (·.kind) = some kind ↔
      ∃ f ∈ forms, ∃ k word rest, Chosen f r.keywords k word rest line ∧ kind = String.ofList (upper word) := by
  simp only [Recogniser.line?, Option.map_map, Option.map_eq_some_iff, Prod.exists, line_marker_iff hk hn]
  constructor
  · rintro ⟨word, body, ⟨f, hf, k, rest, hc, hbody⟩, rfl⟩
    exact ⟨f, hf, k, word, rest, hc, rfl⟩
  · rintro ⟨f, hf, k, word, rest, hc, rfl⟩
    obtain ⟨body, hbody⟩ := Option.isSome_iff_exists.mp
      ((body?_isSome_iff (f := f) (not_mem_rest hc.reads hn)).mpr hc.reads.rest_ne_nil)
    exact ⟨word, body, ⟨f, hf, k, rest, hc, hbody⟩, rfl⟩

/-- A line is recognised when it reads with one of the keywords. -/
theorem line?_isSome_iff {r : Recogniser} (hk : ∀ k ∈ r.keywords, StartsSolid k) {line : List Char}
    (hn : '\n' ∉ line) :
    (r.line? line).isSome = true ↔ ∃ f ∈ forms, ∃ k ∈ r.keywords, ∃ word rest, Reads f k word rest line := by
  constructor
  · intro h
    obtain ⟨found, hf⟩ := Option.isSome_iff_exists.mp h
    obtain ⟨f, hf, k, word, rest, ⟨hr, earlier, later, he, -⟩, -⟩ :=
      (line?_kind_iff hk hn found.kind).mp (by rw [hf]; rfl)
    exact ⟨f, hf, k, by rw [he]; simp, word, rest, hr⟩
  · rintro ⟨f, hf, h⟩
    obtain ⟨k, word, rest, hc⟩ := exists_chosen h
    have := (line?_kind_iff hk hn (String.ofList (upper word))).mpr ⟨f, hf, k, word, rest, hc, rfl⟩
    cases hl : r.line? line with
    | none => rw [hl] at this; cases this
    | some found => rfl

theorem form_unique_of_reads {f g : Form} (hf : f ∈ forms) (hg : g ∈ forms) {k k' : List Char} (hk : StartsSolid k)
    (hk' : StartsSolid k') {word rest word' rest' line : List Char} (h : Reads f k word rest line)
    (h' : Reads g k' word' rest' line) : f = g := by
  obtain ⟨s, hs, -⟩ := (reads_iff hf hk).mp h
  obtain ⟨t, ht, -⟩ := (reads_iff hg hk').mp h'
  exact form_unique hf hg hs ht

/-- A recogniser built from keywords answers as the patterns of the four forms do, and it recognises the
    lines that read as a marker with one of the keywords. The kind is the word of the first keyword
    that reads, in capitals. No line reads in two forms, and the forms may be tried in any order. -/
theorem line?_recognises [SizeLimit] {keywords : List (List Char)} {r : Recogniser} (hb : Recogniser.build keywords = .ok r)
    {line : List Char} (hn : '\n' ∉ line) :
    (forms.findSome? fun f => (f.pattern (usable keywords)).captures? line) =
        (marker? r.keywords line).map (fun m => [m.1, m.2]) ∧
    ((r.line? line).isSome = true ↔
      ∃ f ∈ forms, ∃ k ∈ usable keywords, ∃ word rest, Reads f k word rest line) ∧
    (∀ kind, (r.line? line).map (·.kind) = some kind ↔
      ∃ f ∈ forms, ∃ k word rest, Chosen f (usable keywords) k word rest line ∧ kind = String.ofList (upper word)) ∧
    (∀ f ∈ forms, ∀ g ∈ forms, ∀ k ∈ usable keywords, ∀ k' ∈ usable keywords, ∀ word rest word' rest',
      Reads f k word rest line → Reads g k' word' rest' line → f = g) ∧
    (∀ order : List Form, order.Perm forms →
      (order.findSome? (·.marker? r.keywords line)).map (fun m => describe m.1 m.2) = r.line? line) := by
  obtain ⟨hu, hk⟩ := startsSolid_of_build hb
  rw [← hu]
  refine ⟨?_, line?_isSome_iff hk hn, line?_kind_iff hk hn, ?_, ?_⟩
  · rw [Marker.marker?, List.map_findSome?]
    exact findSome?_congr fun f hf => captures?_pattern hf hk line
  · intro f hf g hg k hkm k' hkm' word rest word' rest' h h'
    exact form_unique_of_reads hf hg (hk k hkm) (hk k' hkm') h h'
  · intro order ho
    rw [findSome?_perm_of_unique ho marker?_unique]
    rfl

/-- Behind a keyword that is a front of the word of this line and ends within it, the second keyword is tried. -/
theorem line?_recognises_second_keyword :
    (Recogniser.line? ⟨["TODO".toList, "TODOS".toList]⟩ " // todos x".toList).isSome = true := by
  have hb : Recogniser.build ["TODO".toList, " TODOS ".toList] = .ok ⟨["TODO".toList, "TODOS".toList]⟩ := by
    decide +kernel
  have hr : Reads ⟨['/', '/'], none⟩ "TODOS".toList "todos".toList " x".toList " // todos x".toList :=
    ⟨⟨[' '], [' '], by decide, by decide, rfl⟩, by decide +kernel, by decide, by decide⟩
  have hk : "TODOS".toList ∈ usable ["TODO".toList, " TODOS ".toList] := by decide +kernel
  exact (line?_recognises hb (by decide)).2.1.mpr ⟨_, by decide, _, hk, _, _, hr⟩

end MarkerScan.Marker
