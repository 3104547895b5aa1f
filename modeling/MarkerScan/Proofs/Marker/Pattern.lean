import MarkerScan.Marker.Pattern
import MarkerScan.Proofs.Marker.Keyword
import MarkerScan.Proofs.Text.Pattern
/-
  MarkerScan.Proofs.Marker.Pattern — recognising a marker is matching the pattern of its form.

  For usable keywords the groups of the first way to match `Form.pattern` are the keyword as
  it is written and the body that `Form.marker?` gives, and there is no match when there is
  no marker (`captures?_pattern`), for every line, with line feeds or without. Blanks in
  front of an opener and of a keyword leave no choice; behind the keyword, the places where
  the body may start are tried from the furthest one back (`first_skipPattern`).
-/

namespace MarkerScan.Marker

open Text Pattern

variable {β : Type} {k : Reading → Option β} {b r : List Char} {groups : List (List Char)}

/-! ## Letters and keywords -/

theorem first_literal (ks : List Char) : (literal ks).first k ⟨b, r, groups⟩ =
    match sameLetters? ks r with
    | some (m, r') => k ⟨m.reverse ++ b, r', groups⟩
    | none => none := by
  induction ks generalizing b r with
  | nil => simp [literal, sameLetters?]
  | cons c ks ih =>
    rw [literal, first_seq]
    cases r with
    | nil => rfl
    | cons d r =>
      rw [first_one_cons, sameLetters?]
      cases h : sameLetter c d with
      | false => rfl
      | true =>
        rw [if_pos rfl, if_pos rfl, ih]
        cases sameLetters? ks r with
        | none => rfl
        | some m => simp

theorem first_keywordPattern {keyword : List Char} (hne : keyword ≠ []) :
    (keywordPattern keyword).first k ⟨b, r, groups⟩ =
      match keywordAt? keyword r with
      | some (m, r') => k ⟨m.reverse ++ b, r', groups⟩
      | none => none := by
  unfold keywordPattern keywordAt?
  cases hs : sameLetters? keyword r with
  | none =>
    split
    · rw [first_seq, first_literal, hs]
    · rw [first_literal, hs]
  | some p =>
    obtain ⟨m, r'⟩ := p
    have hm : m ≠ [] := by
      intro e
      have := (sameLetters?_append hs).2
      rw [e, List.length_nil] at this
      exact hne (List.eq_nil_of_length_eq_zero this.symm)
    have hlast : (m.reverse ++ b).head? = m.getLast? := by
      cases hl : m.getLast? with
      | none => exact absurd (List.getLast?_eq_none_iff.mp hl) hm
      | some d => rw [List.head?_append, List.head?_reverse, hl, Option.some_or]
    split
    · rename_i hw
      rw [first_seq, first_literal, hs]
      simp only [first_edge, hlast, endsWord, hw, Bool.not_true, Bool.false_or]
      split <;> rfl
    · rename_i hw
      rw [first_literal, hs]
      simp [endsWord, hw]

/-! ## The body -/

theorem outsideFolding_of_mem_forms {f : Form} (hf : f ∈ forms) :
    (∀ c ∈ f.opener, outsideFolding c.toNat = true) ∧
      ∀ closer, f.closer = some closer → ∀ c ∈ closer, outsideFolding c.toNat = true := by
  have spelled : (forms.all fun f => (f.opener ++ f.closer.getD []).all fun c => outsideFolding c.toNat) = true := by
    decide +kernel
  have each := List.all_eq_true.mp (List.all_eq_true.mp spelled f hf)
  refine ⟨fun c hc => each c (List.mem_append_left _ hc), fun closer he c hc => each c (List.mem_append_right _ ?_)⟩
  rw [he]; exact hc

/-- A body in a form that can be closed ends where the closer or the end of the text follows. -/
theorem first_closing {closer : List Char} (hc : ∀ c ∈ closer, outsideFolding c.toNat = true) :
    (alt (literal closer) finish).first (fun t => some t.groups) ⟨b, r, groups⟩ =
      if closer.isPrefixOf r || r.isEmpty then some groups else none := by
  rw [first_alt, first_literal, sameLetters?_of_outsideFolding hc, first_finish,
    ← List.isSome_isPrefixOf?_eq_isPrefixOf]
  cases closer.isPrefixOf? r <;> rfl

/-- The characters of a body are tried one by one until the closer or the end of the text follows. -/
theorem first_few_untilCloser {closer : List Char} (hc : ∀ c ∈ closer, outsideFolding c.toNat = true)
    (start : Reading) (read : List Char) (hs : start.rest = read.reverse ++ r) :
    (few notLineFeed).first (fun t => (alt (literal closer) finish).first (fun t => some t.groups) (start.remember t))
      ⟨b, r, groups⟩ = (untilCloser closer read r).map fun body => groups ++ [body] := by
  induction r generalizing b read with
  | nil =>
    rw [first_few_nil, Reading.remember, first_closing hc, hs]
    simp [untilCloser, -List.length_reverse]
  | cons c r ih =>
    have here : start.rest.take (start.rest.length - (c :: r).length) = read.reverse := by
      rw [hs, List.length_append, Nat.add_sub_cancel, List.take_left]
    rw [first_few_cons, Reading.remember, first_closing hc, here, untilCloser]
    cases hp : closer.isPrefixOf (c :: r) with
    | true => simp
    | false =>
      simp only [List.isEmpty_cons, Bool.or_false, Bool.false_eq_true, if_false, Option.none_or]
      by_cases hn : c = '\n'
      · simp [hn, notLineFeed]
      · rw [if_pos (by simpa [notLineFeed] using hn), if_neg hn]
        exact ih (c :: read) (by simpa using hs)

theorem first_bodyPattern {f : Form} (hf : f ∈ forms) :
    f.bodyPattern.first (fun t => some t.groups) ⟨b, r, groups⟩ =
      (f.bodyFrom? r).map fun body => groups ++ [body] := by
  unfold Form.bodyPattern Form.bodyFrom?
  cases hcl : f.closer with
  | none =>
    simp only
    rw [first_group, first_seq]
    cases r with
    | nil => rfl
    | cons c r =>
      rw [first_one_cons]
      by_cases hn : c = '\n'
      · simp [hn, notLineFeed]
      · rw [if_pos (by simpa [notLineFeed] using hn), first_many_of_total (fun _ => rfl)]
        simp only [hn, if_false, behind, Reading.remember, Option.map_some]
        have taken : (c :: r).length - (r.dropWhile notLineFeed).length = (c :: r.takeWhile notLineFeed).length := by
          have := congrArg List.length (List.takeWhile_append_dropWhile (p := notLineFeed) (l := r))
          simp only [List.length_append, List.length_cons] at this ⊢
          omega
        rw [taken]
        have whole : c :: r = (c :: r.takeWhile notLineFeed) ++ r.dropWhile notLineFeed := by
          rw [List.cons_append, List.takeWhile_append_dropWhile]
        rw [whole, List.take_left]
        rfl
  | some closer =>
    simp only
    rw [first_seq, first_group, first_seq]
    cases r with
    | nil => rfl
    | cons c r =>
      rw [first_one_cons]
      by_cases hn : c = '\n'
      · simp [hn, notLineFeed]
      · rw [if_pos (by simpa [notLineFeed] using hn)]
        simp only [hn, if_false]
        exact first_few_untilCloser ((outsideFolding_of_mem_forms hf).2 closer hcl) ⟨b, c :: r, groups⟩ [c] rfl

/-! ## Where the body starts -/

theorem bodyWithin?_eq_fromFurthest (f : Form) (s : List Char) (n : Nat) :
    f.bodyWithin? s n = fromFurthest f.bodyFrom? s n := by
  induction n with
  | zero => rfl
  | succ n ih =>
    rw [Form.bodyWithin?, fromFurthest, ← ih]
    cases f.bodyFrom? (s.drop (n + 1)) <;> rfl

/-- How many characters may be skipped once the blanks in front of a colon are skipped. -/
def skippableColon : List Char → Nat
  | ':' :: s => (s.takeWhile isBlank).length + 1
  | s => (s.takeWhile isBlank).length

theorem skippable_cons_of_blank {c : Char} (h : isBlank c = true) (s : List Char) :
    skippable (c :: s) = skippable s + 1 := by
  simp only [skippable, List.takeWhile_cons, List.dropWhile_cons, h, if_true, List.length_cons]
  split <;> omega

theorem skippable_cons_of_not_blank {c : Char} (h : isBlank c = false) (s : List Char) :
    skippable (c :: s) = skippableColon (c :: s) := by
  simp only [skippable, skippableColon, List.takeWhile_cons, List.dropWhile_cons, h]
  split
  · simp_all
    omega
  · simp_all

theorem length_takeWhile_isBlank_le (s : List Char) : (s.takeWhile isBlank).length ≤ skippable s := by
  simp only [skippable]
  split <;> omega

theorem first_optional_colon {g : List Char → Option β} (hk : ∀ b r, k ⟨b, r, groups⟩ = g r) :
    (seq (optional (literal [':'])) (many isBlank)).first k ⟨b, r, groups⟩ = fromFurthest g r (skippableColon r) := by
  have colon : outsideFolding ':'.toNat = true := by decide +kernel
  rw [first_seq, Pattern.optional, first_alt, first_empty, first_literal, sameLetters?_of_outsideFolding (by simpa using colon),
    first_many_blanks hk]
  cases r with
  | nil => rfl
  | cons c r =>
    by_cases hc : c = ':'
    · subst hc
      have : (':' :: r).takeWhile isBlank = [] := rfl
      simp only [List.isPrefixOf?, beq_self_eq_true, if_true, Option.map_some, skippableColon, this]
      rw [first_many_blanks hk, fromFurthest_cons]
      rfl
    · have : ([':'] : List Char).isPrefixOf? (c :: r) = none := by
        simp [List.isPrefixOf?, Ne.symm hc]
      have skips : skippableColon (c :: r) = ((c :: r).takeWhile isBlank).length := by
        unfold skippableColon
        split
        · simp_all
        · rfl
      rw [this, skips]
      exact Option.none_or

/-- Behind a keyword the furthest place from which the rest can go on is taken. -/
theorem first_skipPattern {g : List Char → Option β} (hk : ∀ b r, k ⟨b, r, groups⟩ = g r) :
    skipPattern.first k ⟨b, r, groups⟩ = fromFurthest g r (skippable r) := by
  rw [skipPattern, first_seq]
  induction r generalizing b with
  | nil => rw [first_many_nil, first_optional_colon hk]; rfl
  | cons c r ih =>
    rw [first_many_cons, first_optional_colon hk]
    cases h : isBlank c with
    | true =>
      have : skippableColon (c :: r) = (r.takeWhile isBlank).length + 1 := by
        unfold skippableColon
        split
        · rename_i heq
          obtain ⟨rfl, rfl⟩ := List.cons.inj heq
          cases h
        · rw [List.takeWhile_cons, if_pos h, List.length_cons]
      rw [if_pos rfl, ih, skippable_cons_of_blank h, fromFurthest_cons, this, fromFurthest_cons]
      -- The places behind fewer blanks have been tried by the time the choice of blanks is taken back.
      cases hx : fromFurthest g r (skippable r) with
      | some x => rfl
      | none => rw [fromFurthest_none_of_le (length_takeWhile_isBlank_le r) hx, Option.none_or]
    | false => rw [if_neg (by decide), Option.none_or, skippable_cons_of_not_blank h]

/-! ## The whole line -/

theorem sameLetters?_none_of_blank {k s : List Char} {c : Char} (hk : StartsSolid k)
    (hc : isBlank c = true) : sameLetters? k (c :: s) = none := by
  obtain ⟨d, rest, rfl, hd⟩ := hk
  rw [sameLetters?, if_neg]
  intro h
  rw [← isBlank_of_sameLetter h, hc] at hd
  cases hd

theorem startsSolid_opener {f : Form} (hf : f ∈ forms) : StartsSolid f.opener := by
  have heads : ∀ f ∈ forms, f.opener ≠ [] ∧ (f.opener.head?.any isBlank) = false := by decide
  obtain ⟨hne, hb⟩ := heads f hf
  cases ho : f.opener with
  | nil => exact absurd ho hne
  | cons d rest => exact ⟨d, rest, rfl, by simpa [ho] using hb⟩

/-- The pattern from its first group on: the keywords are tried in their order, each with all that follows. -/
theorem first_keywords {f : Form} (hf : f ∈ forms) {keywords : List (List Char)} (hk : ∀ k ∈ keywords, k ≠ []) :
    (seq (group (anyOf (keywords.map keywordPattern))) (seq skipPattern f.bodyPattern)).first
        (fun t => some t.groups) ⟨b, r, []⟩ =
      (keywords.findSome? (f.markerWith? · r)).map fun m => [m.1, m.2] := by
  rw [first_seq, first_group, first_anyOf, List.findSome?_map, List.map_findSome?]
  apply findSome?_congr
  intro k hmem
  simp only [Function.comp_apply, first_keywordPattern (hk k hmem), Form.markerWith?]
  cases hs : keywordAt? k r with
  | none => rfl
  | some p =>
    obtain ⟨word, rest⟩ := p
    obtain ⟨rfl, -, -⟩ := keywordAt?_eq_some_iff.mp hs
    have taken : (word ++ rest).take ((word ++ rest).length - rest.length) = word := by
      rw [List.length_append, Nat.add_sub_cancel, List.take_left]
    simp only [Reading.remember, taken, List.nil_append]
    rw [first_seq, first_skipPattern (fun _ _ => first_bodyPattern hf), fromFurthest_map,
      ← bodyWithin?_eq_fromFurthest, ← Form.body?, Option.map_map]
    rfl

/-- The keyword and the body of a marker are what the pattern of its form captures. -/
theorem captures?_pattern {f : Form} (hf : f ∈ forms) {keywords : List (List Char)}
    (hk : ∀ k ∈ keywords, StartsSolid k) (line : List Char) :
    (f.pattern keywords).captures? line = (f.marker? keywords line).map fun m => [m.1, m.2] := by
  have hne : ∀ k ∈ keywords, k ≠ [] := by
    intro k hmem e
    obtain ⟨d, rest, rfl, -⟩ := hk k hmem
    cases e
  have keywordBlocked : ∀ b c r g, isBlank c = true →
      (seq (group (anyOf (keywords.map keywordPattern))) (seq skipPattern f.bodyPattern)).first
        (fun t => some t.groups) ⟨b, c :: r, g⟩ = none := by
    intro b c r g hc
    rw [first_seq, first_group, first_anyOf, List.findSome?_map, List.findSome?_eq_none_iff]
    intro k hmem
    show (keywordPattern k).first _ _ = none
    rw [first_keywordPattern (hne k hmem), keywordAt?, sameLetters?_none_of_blank (hk k hmem) hc]
  rw [captures?_eq_first, Form.pattern, first_seq, first_many_of_blocked, first_seq, behind, first_literal,
    sameLetters?_of_outsideFolding (outsideFolding_of_mem_forms hf).1, Form.marker?, Form.opened?, ← trimStart]
  · cases f.opener.isPrefixOf? (trimStart line) with
    | none => rfl
    | some s =>
      simp only [Option.map_some]
      rw [first_seq, first_many_of_blocked keywordBlocked, behind, ← trimStart, first_keywords hf hne]
  · intro b c r g hc
    rw [first_seq, first_literal, sameLetters?_none_of_blank (startsSolid_opener hf) hc]

end MarkerScan.Marker
