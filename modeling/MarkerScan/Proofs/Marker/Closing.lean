import MarkerScan.Proofs.Marker.Cleaning
import MarkerScan.Proofs.Marker.Grammar
/-
  MarkerScan.Proofs.Marker.Closing — where the body of a closed comment ends.

  The body of a marker is at least one character long, and the closer is looked for only
  behind that character. So the body ends at the first closer behind the keyword as long as
  there is something to say in front of it, and otherwise starts with that very closer.

  Proved, for lines without a line feed:
  - `untilCloser_of_upTo`: reading stops at the first closer, or at the end of the text.
  - `body?_of_text` / `body?_of_blank`: the body in each of the two cases.
  - `line?_closed_iff`: a line says what stands between its keyword and the first closer
    exactly when that is not blank; otherwise it says the closer and what follows it, up
    to the next closer.
-/

namespace MarkerScan.Marker

open Text

/-- `inside` is what stands in front of the first closer of `s`, or all of `s` when there is none. -/
def UpTo (closer inside s : List Char) : Prop :=
  (∀ n < inside.length, ¬ closer <+: s.drop n) ∧ ∃ after, s = inside ++ after ∧ (after = [] ∨ closer <+: after)

/-! ## Reading up to a closer -/

theorem upTo_cons {closer inside s : List Char} {c : Char} (hc : ¬ closer <+: c :: s) (h : UpTo closer inside s) :
    UpTo closer (c :: inside) (c :: s) := by
  obtain ⟨hfirst, after, rfl, hafter⟩ := h
  refine ⟨fun n hn => ?_, after, rfl, hafter⟩
  cases n with
  | zero => exact hc
  | succ n => exact hfirst n (Nat.lt_of_succ_lt_succ hn)

theorem exists_upTo (closer s : List Char) : ∃ inside, UpTo closer inside s := by
  induction s with
  | nil => exact ⟨[], fun n hn => absurd hn (Nat.not_lt_zero n), [], rfl, Or.inl rfl⟩
  | cons c s ih =>
    by_cases hc : closer <+: c :: s
    · exact ⟨[], fun n hn => absurd hn (Nat.not_lt_zero n), c :: s, rfl, Or.inr hc⟩
    · obtain ⟨inside, h⟩ := ih
      exact ⟨c :: inside, upTo_cons hc h⟩

theorem untilCloser_of_upTo {closer read inside s : List Char} (hn : '\n' ∉ inside) (h : UpTo closer inside s) :
    untilCloser closer read s = some (read.reverse ++ inside) := by
  induction inside generalizing read s with
  | nil =>
    rw [List.append_nil]
    obtain ⟨-, after, rfl, hafter⟩ := h
    rcases hafter with rfl | hafter
    · rfl
    · cases s with
      | nil => rfl
      | cons c s => rw [untilCloser, if_pos (List.isPrefixOf_iff_prefix.mpr hafter)]
  | cons c inside ih =>
    obtain ⟨hfirst, after, rfl, hafter⟩ := h
    rw [List.mem_cons, not_or] at hn
    have here : closer.isPrefixOf (c :: (inside ++ after)) = false := by
      rw [← Bool.not_eq_true, List.isPrefixOf_iff_prefix]
      exact hfirst 0 (by simp)
    have further : UpTo closer inside (inside ++ after) :=
      ⟨fun n hlt => hfirst (n + 1) (Nat.succ_lt_succ hlt), after, rfl, hafter⟩
    rw [List.cons_append, untilCloser, here, if_neg (by decide), if_neg (Ne.symm hn.1), ih hn.2 further]
    simp

/-! ## Skipping to the body -/

theorem drop_skippable (s : List Char) : s.drop (skippable s) = trimStart (dropColon s) := by
  have blanks : s.drop (s.takeWhile isBlank).length = trimStart s := drop_length_takeWhile isBlank s
  by_cases h : ∃ rest, trimStart s = ':' :: rest
  · obtain ⟨rest, h⟩ := h
    have behind : s.dropWhile isBlank = ':' :: rest := h
    have skips : skippable s = (s.takeWhile isBlank).length + 1 + (rest.takeWhile isBlank).length := by
      simp only [skippable, behind]
    rw [dropColon_of_colon h, trimStart_trimStart, skips, ← List.drop_drop, ← List.drop_drop, blanks, h,
      List.drop_one, List.tail_cons, drop_length_takeWhile]
    rfl
  · have h : ∀ rest, trimStart s ≠ ':' :: rest := fun rest e => h ⟨rest, e⟩
    rw [dropColon_of_no_colon h, ← blanks, skippable]
    split
    · rename_i rest hs
      exact absurd hs (h rest)
    · rfl

theorem trimStart_append_solid (s : List Char) {c : Char} (hc : isBlank c = false) (t : List Char) :
    trimStart (s ++ c :: t) = trimStart s ++ c :: t := by
  rw [trimStart, List.dropWhile_append]
  split
  · rename_i h
    rw [trimStart, List.isEmpty_iff.mp h, List.dropWhile_cons, hc]
    rfl
  · rfl

/-- What stands in front of a solid text is skipped as if it stood alone. -/
theorem trimStart_dropColon_append (s : List Char) {c : Char} (hc : isBlank c = false) (hcolon : c ≠ ':')
    (t : List Char) : trimStart (dropColon (s ++ c :: t)) = trimStart (dropColon s) ++ c :: t := by
  have whole := trimStart_append_solid s hc t
  by_cases h : ∃ rest, trimStart s = ':' :: rest
  · obtain ⟨rest, h⟩ := h
    rw [h, List.cons_append] at whole
    rw [dropColon_of_colon whole, dropColon_of_colon h, trimStart_trimStart, trimStart_trimStart,
      trimStart_append_solid rest hc]
  · have h : ∀ rest, trimStart s ≠ ':' :: rest := fun rest e => h ⟨rest, e⟩
    have none : ∀ rest, trimStart (s ++ c :: t) ≠ ':' :: rest := by
      intro rest e
      rw [whole] at e
      cases hs : trimStart s with
      | nil =>
        rw [hs] at e
        exact hcolon (List.cons.inj e).1
      | cons d u =>
        rw [hs] at e
        obtain ⟨rfl, -⟩ := List.cons.inj e
        exact h u hs
    rw [dropColon_of_no_colon none, dropColon_of_no_colon h, whole]

/-! ## The body of a closed comment -/

section
variable {f : Form} {closer : List Char}

theorem closer_cases (hf : f ∈ forms) (hcl : f.closer = some closer) :
    closer = ['*', '/'] ∨ closer = ['-', '-', '>'] := by
  have : ∀ f ∈ forms, f.closer = none ∨ f.closer = some ['*', '/'] ∨ f.closer = some ['-', '-', '>'] := by decide
  rcases this f hf with h | h | h
  · rw [hcl] at h; cases h
  · rw [hcl] at h; exact Or.inl (Option.some.inj h)
  · rw [hcl] at h; exact Or.inr (Option.some.inj h)

/-- A body starts as far behind the keyword as it can. -/
theorem body?_of_bodyFrom? {rest body : List Char} (h : f.bodyFrom? (trimStart (dropColon rest)) = some body) :
    f.body? rest = some body := by
  rw [← drop_skippable] at h
  unfold Form.body?
  cases hs : skippable rest with
  | zero => rw [hs] at h; exact h
  | succ n => rw [hs] at h; rw [Form.bodyWithin?, h]

theorem bodyFrom?_closed (hcl : f.closer = some closer) {c : Char} {inside s : List Char} (hn : '\n' ∉ c :: inside)
    (h : UpTo closer inside s) : f.bodyFrom? (c :: s) = some (c :: inside) := by
  rw [List.mem_cons, not_or] at hn
  rw [Form.bodyFrom?, if_neg (Ne.symm hn.1), hcl]
  exact untilCloser_of_upTo hn.2 h

/-- The text skipped in front of a body is a front of the text. -/
theorem append_trimStart_dropColon (s : List Char) : ∃ skipped, s = skipped ++ trimStart (dropColon s) :=
  ⟨s.take (skippable s), by rw [← drop_skippable, List.take_append_drop]⟩

theorem closer_eq_cons (hf : f ∈ forms) (hcl : f.closer = some closer) :
    ∃ c cs, closer = c :: cs ∧ isBlank c = false ∧ c ≠ ':' ∧ isWord c = false ∧ isMark c = false := by
  rcases closer_cases hf hcl with rfl | rfl
  · exact ⟨'*', ['/'], rfl, by decide⟩
  · exact ⟨'-', ['-', '>'], rfl, by decide⟩

/-- No closer starts within a closer, behind its first character. -/
theorem upTo_behind_closer (hf : f ∈ forms) (hcl : f.closer = some closer) {inside after : List Char}
    (h : UpTo closer inside after) : UpTo closer (closer.tail ++ inside) (closer.tail ++ after) := by
  rcases closer_cases hf hcl with rfl | rfl
  · exact upTo_cons (by simp) h
  · exact upTo_cons (by simp) (upTo_cons (by simp) h)

theorem body?_of_text (hf : f ∈ forms) (hcl : f.closer = some closer) {text after : List Char}
    (hn : '\n' ∉ text ++ closer ++ after) (hfirst : ∀ n < text.length, ¬ closer <+: (text ++ closer ++ after).drop n)
    (htext : ¬ AllBlank (dropColon text)) : f.body? (text ++ closer ++ after) = some (trimStart (dropColon text)) := by
  apply body?_of_bodyFrom?
  obtain ⟨skipped, hskip⟩ := append_trimStart_dropColon text
  cases hd : trimStart (dropColon text) with
  | nil => exact absurd (trimStart_eq_nil_iff.mp hd) htext
  | cons d inside =>
    rw [hd] at hskip
    have starts : trimStart (dropColon (text ++ closer ++ after)) = d :: (inside ++ (closer ++ after)) := by
      obtain ⟨c, cs, rfl, hc, hcolon, -, -⟩ := closer_eq_cons hf hcl
      have := trimStart_dropColon_append text hc hcolon (cs ++ after)
      rw [hd] at this
      simpa using this
    rw [starts]
    refine bodyFrom?_closed hcl (fun h => hn ?_) ⟨fun n hlt => ?_, closer ++ after, rfl, Or.inr (List.prefix_append _ _)⟩
    · rw [hskip, List.append_assoc, List.append_assoc]
      exact List.mem_append_right _ (List.mem_append_left _ h)
    · have place : (text ++ closer ++ after).drop (skipped.length + (n + 1)) = (inside ++ (closer ++ after)).drop n := by
        rw [hskip, List.append_assoc, List.append_assoc, List.drop_length_add_append]
        rfl
      rw [← place]
      refine hfirst _ ?_
      rw [hskip, List.length_append, List.length_cons]
      omega

theorem body?_of_blank (hf : f ∈ forms) (hcl : f.closer = some closer) {text after inside : List Char}
    (hn : '\n' ∉ text ++ closer ++ after) (htext : AllBlank (dropColon text)) (h : UpTo closer inside after) :
    f.body? (text ++ closer ++ after) = some (closer ++ inside) := by
  apply body?_of_bodyFrom?
  have further := upTo_behind_closer hf hcl h
  obtain ⟨c, cs, rfl, hc, hcolon, -, -⟩ := closer_eq_cons hf hcl
  have starts : trimStart (dropColon (text ++ (c :: cs) ++ after)) = c :: (cs ++ after) := by
    have := trimStart_dropColon_append text hc hcolon (cs ++ after)
    rw [trimStart_eq_nil_iff.mpr htext] at this
    simpa using this
  rw [starts]
  refine bodyFrom?_closed hcl (fun hmem => hn ?_) further
  obtain ⟨-, behind, rfl, -⟩ := h
  rw [List.append_assoc, ← List.append_assoc (c :: cs)]
  exact List.mem_append_right _ (List.mem_append_left _ hmem)

end

/-! ## What the line says -/

theorem describe_trimStart (word body : List Char) : describe word (trimStart body) = describe word body := by
  unfold describe
  rw [trim_trimStart]

/-- Text that starts with a character that is no blank, no colon and in no token is not cleaned away. -/
theorem cleaned_cons_ne_nil {c : Char} (hw : isWord c = false) (hm : isMark c = false) (hb : isBlank c = false)
    (hcolon : c ≠ ':') (s : List Char) : cleaned (c :: s) ≠ [] := by
  intro h
  have kept := congrArg (List.filter (!isBlank ·)) h
  rw [cleaned_eq_tidy, ← removePriority_eq_without, removePriority_other hw, unmarked_plain hw hm, filter_tidy,
    List.filter_cons, hb, if_pos (by decide), dropOneColon_cons hcolon] at kept
  cases kept

theorem describe_ne_of_blank {c : Char} (hw : isWord c = false) (hm : isMark c = false) (hb : isBlank c = false)
    (hcolon : c ≠ ':') (word s : List Char) {text : List Char} (htext : AllBlank text) :
    describe word (c :: s) ≠ describe word text := by
  intro h
  have content : '[' :: upper word ++ ']' :: ' ' :: cleaned (trim (c :: s)) =
      '[' :: upper word ++ ']' :: ' ' :: cleaned (trim text) := String.ofList_injective (congrArg Found.content h)
  have same : cleaned (trim (c :: s)) = cleaned (trim text) := by simpa using content
  rw [trim_cons_of_not_blank hb, trim_eq_nil_iff.mpr htext] at same
  exact cleaned_cons_ne_nil hw hm hb hcolon (trimEnd s) (same.trans rfl)

/-- A closer behind the keyword ends what the line says when text that is not blank stands in front of it,
    behind the colon. When there is no such text, the line says the first closer and what follows it up to
    the next one. -/
theorem line?_closed_iff [SizeLimit] {keywords : List (List Char)} {r : Recogniser} (hb : Recogniser.build keywords = .ok r)
    {line : List Char} (hn : '\n' ∉ line) {f : Form} (hf : f ∈ forms) {closer : List Char} (hcl : f.closer = some closer)
    {k word rest : List Char} (hc : Chosen f r.keywords k word rest line) {text after : List Char}
    (hrest : rest = text ++ closer ++ after) (hfirst : ∀ n < text.length, ¬ closer <+: rest.drop n) :
    (r.line? line = some (describe word (dropColon text)) ↔ ¬ AllBlank (dropColon text)) ∧
    (AllBlank (dropColon text) → ∃ inside, UpTo closer inside after ∧
      r.line? line = some (describe word (closer ++ inside))) := by
  subst hrest
  have hrest : '\n' ∉ text ++ closer ++ after := not_mem_rest hc.reads hn
  have tells : ∀ body, f.body? (text ++ closer ++ after) = some body → r.line? line = some (describe word body) := by
    intro body hbody
    have := (line_marker_iff (startsSolid_of_build hb).2 hn).mpr ⟨f, hf, k, _, hc, hbody⟩
    rw [Recogniser.line?, this]
    rfl
  by_cases ht : AllBlank (dropColon text)
  · obtain ⟨inside, hinside⟩ := exists_upTo closer after
    have said := tells _ (body?_of_blank hf hcl hrest ht hinside)
    refine ⟨⟨fun h => ?_, fun h => absurd ht h⟩, fun _ => ⟨inside, hinside, said⟩⟩
    obtain ⟨c, cs, rfl, hblank, hcolon, hword, hmark⟩ := closer_eq_cons hf hcl
    rw [said] at h
    exact absurd (Option.some.inj h) (describe_ne_of_blank hword hmark hblank hcolon word (cs ++ inside) ht)
  · refine ⟨⟨fun _ => ht, fun _ => ?_⟩, fun h => absurd h ht⟩
    rw [tells _ (body?_of_text hf hcl hrest hfirst ht), describe_trimStart]

/-- A priority word and an assignee behind the closer are not read. -/
theorem line?_closed_iff_tokens_behind :
    Recogniser.line? ⟨["TODO".toList]⟩ "/* TODO: fix it */ HIGH @bob".toList =
      some (describe "TODO".toList "fix it ".toList) := by
  have hc : Chosen ⟨['/', '*'], some ['*', '/']⟩ ["TODO".toList] "TODO".toList "TODO".toList
      ": fix it */ HIGH @bob".toList "/* TODO: fix it */ HIGH @bob".toList := by
    refine ⟨⟨⟨[], [' '], by decide, by decide, rfl⟩, rfl, by decide, by decide⟩, [], [], rfl, ?_⟩
    intro k hk
    cases hk
  have hb : Recogniser.build ["TODO".toList] = .ok ⟨["TODO".toList]⟩ := by decide +kernel
  have hrest : ": fix it */ HIGH @bob".toList = ": fix it ".toList ++ ['*', '/'] ++ " HIGH @bob".toList := rfl
  exact (line?_closed_iff hb (by decide) (by decide) rfl hc hrest (by decide)).1.mpr (by decide)

/-- Nothing stands between this keyword and the closer, and the line says the closer. -/
theorem line?_closed_keeps_closer :
    Recogniser.build ["TODO".toList] = .ok ⟨["TODO".toList]⟩ ∧
      (Recogniser.line? ⟨["TODO".toList]⟩ "/* TODO */".toList).map (·.content) = some "[TODO] */" ∧
      (describe "TODO".toList (dropColon " ".toList)).content = "[TODO] " := by
  decide +kernel

end MarkerScan.Marker
