import MarkerScan.Proofs.Marker.Composed
/-
  MarkerScan.Proofs.Marker.Layout — the layout of a comment makes no difference.

  `Comment f word text line`: the line is a comment of the form `f` with this word and this
  text. Blanks stand where they like: at its front, around the opener, between the word and
  the text with or without a colon among them, and behind the text. A form with a closer may
  end in a space, the closer and anything.

  Proved:
  - `marker?_of_reads`: among keywords that are words, the one reading of a comment decides its
    marker, also where line feeds stand between the word and the text or behind the closer;
  - `upTo_text`: a text without a closer, with blanks behind it, is read up to the closer;
  - `Comment.body?`: so the body of a comment is its text, with some blanks behind it;
  - `line?_comment`: what a comment says is told by its word and its text alone.
-/

namespace MarkerScan.Marker

open Text

/-- What separates a keyword from its text: a colon between blanks, or blanks. -/
inductive Separates : List Char → Prop
  | colon {before after : List Char} (hb : AllBlank before) (ha : AllBlank after) : Separates (before ++ ':' :: after)
  | blanks {gap : List Char} (hne : gap ≠ []) (hg : AllBlank gap) : Separates gap

/-- What may stand at the very end of a comment. -/
inductive Ends (f : Form) : List Char → Prop
  | unclosed : Ends f []
  | closed {closer : List Char} (hcl : f.closer = some closer) (after : List Char) : Ends f (' ' :: (closer ++ after))

/-- A text that a comment of any form can hold. -/
structure Holdable (text : List Char) : Prop where
  front : ∃ c rest, text = c :: rest ∧ isBlank c = false ∧ c ≠ ':'
  one_line : '\n' ∉ text
  unclosed : ¬ "*/".toList <:+: text ∧ ¬ "-->".toList <:+: text

structure Comment (f : Form) (word text line : List Char) : Prop where
  holdable : Holdable text
  layout : ∃ indent gap sep trail ending, AllBlank indent ∧ AllBlank gap ∧ Separates sep ∧
    (AllBlank trail ∧ '\n' ∉ trail) ∧ Ends f ending ∧
    line = indent ++ f.opener ++ gap ++ word ++ sep ++ text ++ trail ++ ending

/-! ## The one reading of a comment -/

theorem findSome?_of_forall {α β : Type} {f : α → Option β} {l : List α} {y : β} (some_gives : ∃ a ∈ l, f a = some y)
    (only : ∀ a ∈ l, ∀ z, f a = some z → z = y) : l.findSome? f = some y := by
  obtain ⟨a, ha, hy⟩ := some_gives
  have found : (l.findSome? f).isSome = true := List.findSome?_isSome_iff.mpr ⟨a, ha, by rw [hy]; rfl⟩
  obtain ⟨z, hz⟩ := Option.isSome_iff_exists.mp found
  obtain ⟨b, hb, hbz⟩ := List.exists_of_findSome?_eq_some hz
  rw [hz, only b hb z hbz]

theorem marker?_of_reads {keywords : List (List Char)} (words : ∀ k ∈ keywords, IsRun k) {f : Form} (hf : f ∈ forms)
    {k word : List Char} (hk : k ∈ keywords) (run : IsRun word) {c : Char} (outside : outsideFolding c.toNat = true)
    (apart : isWord c = false) {rest line body : List Char} (reads : Reads f k word (c :: rest) line)
    (hbody : f.body? (c :: rest) = some body) : marker? keywords line = some (word, body) := by
  have solid : ∀ k ∈ keywords, StartsSolid k := fun k hk => startsSolid_of_isRun (words k hk)
  obtain ⟨s, opened, -⟩ := (reads_iff hf (solid k hk)).mp reads
  rw [marker?, findSome?_eq_some_iff_of_unique marker?_unique]
  refine ⟨f, hf, ?_⟩
  rw [Form.marker?, opened]
  refine findSome?_of_forall ⟨k, hk, (markerWith?_eq_some_iff hf (solid k hk) opened).mpr ⟨_, reads, hbody⟩⟩ ?_
  rintro k' hk' ⟨word', body'⟩ given
  obtain ⟨rest', reads', hbody'⟩ := (markerWith?_eq_some_iff hf (solid k' hk') opened).mp given
  obtain ⟨rfl, rfl⟩ := word_of_reads_to outside apart hf (words k hk) (words k' hk') run reads reads'
  rw [Option.some.inj (hbody'.symm.trans hbody)]

/-! ## Between the word and the text -/

theorem Separates.front {sep : List Char} (h : Separates sep) :
    ∃ c rest, sep = c :: rest ∧ outsideFolding c.toNat = true ∧ isWord c = false := by
  have blank : ∀ {c : Char}, isBlank c = true → outsideFolding c.toNat = true ∧ isWord c = false :=
    fun hc => ⟨outsideFolding_of_blank hc, isWord_of_isBlank hc⟩
  cases h with
  | @colon before after hb =>
    cases before with
    | nil => exact ⟨':', after, rfl, by decide +kernel, rfl⟩
    | cons c before => exact ⟨c, _, rfl, blank (hb c List.mem_cons_self)⟩
  | blanks hne hg =>
    obtain ⟨c, gap, rfl⟩ := List.exists_cons_of_ne_nil hne
    exact ⟨c, gap, rfl, blank (hg c List.mem_cons_self)⟩

/-- Nothing of a separator is left for the body. -/
theorem Separates.skipped {sep : List Char} (h : Separates sep) : trimStart (dropColon sep) = [] := by
  cases h with
  | @colon before after hb ha =>
    have starts : trimStart (before ++ ':' :: after) = ':' :: after := trimStart_append hb fun c hc => by
      rw [← Option.some.inj hc]; rfl
    rw [dropColon_of_colon starts, trimStart_eq_nil_iff.mpr ha]
    rfl
  | blanks _ hg =>
    have none_left : trimStart sep = [] := trimStart_eq_nil_iff.mpr hg
    have no_colon : ∀ rest, trimStart sep ≠ ':' :: rest := by simp [none_left]
    rw [dropColon_of_no_colon no_colon, none_left]

/-! ## Up to the closer -/

/-- A text without a closer is read on to what follows, unless the closer goes on into that. -/
theorem upTo_text {closer inside text rest : List Char} (solid : ∀ c ∈ closer, isBlank c = false)
    (htext : ¬ closer <:+: text) (sep : Separated rest) (h : UpTo closer inside rest) :
    UpTo closer (text ++ inside) (text ++ rest) := by
  induction text with
  | nil => exact h
  | cons c text ih =>
    refine upTo_cons (fun starts => htext ?_) (ih fun part => htext (part.trans (List.suffix_cons c text).isInfix))
    rcases List.prefix_or_prefix_of_prefix starts (List.prefix_append (c :: text) rest) with within | ⟨more, rfl⟩
    · exact within.isInfix
    · cases more with
      | nil => exact (List.append_nil (c :: text)).symm ▸ List.infix_rfl
      | cons d more =>
        -- The closer would go on with the blank behind the text.
        have further : d :: more <+: rest := (List.prefix_append_right_inj (c :: text)).mp starts
        have blank : isBlank d = true := sep d (by obtain ⟨u, rfl⟩ := further; rfl)
        rw [solid d (List.mem_append_right _ List.mem_cons_self)] at blank
        cases blank

theorem not_infix_of_blanks {closer gap : List Char} (solid : ∀ c ∈ closer, isBlank c = false) (hne : closer ≠ [])
    (hg : AllBlank gap) : ¬ closer <:+: gap := by
  intro part
  obtain ⟨c, closer, rfl⟩ := List.exists_cons_of_ne_nil hne
  have blank := hg c (part.subset List.mem_cons_self)
  rw [solid c List.mem_cons_self] at blank
  cases blank

/-! ## The body of a comment -/

section
variable {f : Form} {closer : List Char} (hf : f ∈ forms) (hcl : f.closer = some closer)
include hf hcl

theorem solid_closer : ∀ c ∈ closer, isBlank c = false := by
  have none_blank : closer.all (!isBlank ·) = true := by
    rcases closer_cases hf hcl with rfl | rfl <;> decide
  intro c hc
  simpa using List.all_eq_true.mp none_blank c hc

theorem Holdable.not_closed {text : List Char} (h : Holdable text) : ¬ closer <:+: text := by
  rcases closer_cases hf hcl with rfl | rfl
  · exact h.unclosed.1
  · exact h.unclosed.2

/-- Up to the closer at its end a comment has one more space, or nothing. -/
theorem Ends.upTo {ending : List Char} (h : Ends f ending) :
    ∃ gap, AllBlank gap ∧ '\n' ∉ gap ∧ Separated ending ∧ UpTo closer gap ending := by
  have here : ∀ {rest}, rest = [] ∨ closer <+: rest → UpTo closer [] rest :=
    fun h => ⟨fun n hn => absurd hn (Nat.not_lt_zero n), _, rfl, h⟩
  cases h with
  | unclosed => exact ⟨[], allBlank_nil, List.not_mem_nil, separated_nil, here (.inl rfl)⟩
  | closed hcl' after =>
    obtain rfl := Option.some.inj (hcl.symm.trans hcl')
    refine ⟨[' '], by decide, by decide, separated_cons.mpr rfl, upTo_cons ?_ (here (.inr (List.prefix_append _ _)))⟩
    intro starts
    obtain ⟨c, closer, rfl, hc, -⟩ := closer_eq_cons hf hcl
    rw [(List.cons_prefix_cons.mp starts).1] at hc
    cases hc

end

theorem bodyFrom?_text {f : Form} (hf : f ∈ forms) {text trail ending : List Char} (hold : Holdable text)
    (ht : AllBlank trail) (hn : '\n' ∉ trail) (ends : Ends f ending) :
    ∃ gap, AllBlank gap ∧ f.bodyFrom? (text ++ (trail ++ ending)) = some (text ++ gap) := by
  obtain ⟨c, rest, rfl, hc, -⟩ := hold.front
  have one_line : '\n' ∉ c :: rest ++ trail := fun h => (List.mem_append.mp h).elim hold.one_line hn
  cases hcl : f.closer with
  | none =>
    obtain rfl : ending = [] := by
      cases ends with
      | unclosed => rfl
      | closed hcl' => rw [hcl] at hcl'; cases hcl'
    refine ⟨trail, ht, ?_⟩
    have whole : (rest ++ trail).takeWhile (· != '\n') = rest ++ trail := by
      refine List.takeWhile_eq_self_iff.mpr fun d hd => bne_iff_ne.mpr ?_
      rintro rfl
      exact one_line (List.mem_cons_of_mem c hd)
    have first : c ≠ '\n' := fun h => one_line (h ▸ List.mem_cons_self)
    rw [List.append_nil, List.cons_append, Form.bodyFrom?, if_neg first, hcl]
    simp only [whole]
  | some closer =>
    obtain ⟨gap, hg, hgn, sep, upTo⟩ := ends.upTo hf hcl
    have solid := solid_closer hf hcl
    have some_closer : closer ≠ [] := by
      obtain ⟨d, ds, rfl, -⟩ := closer_eq_cons hf hcl
      exact List.cons_ne_nil d ds
    have sep' : Separated (trail ++ ending) := by
      cases trail with
      | nil => exact sep
      | cons d trail => exact separated_cons.mpr (ht d List.mem_cons_self)
    have unclosed : ¬ closer <:+: rest := fun part => hold.not_closed hf hcl (part.trans (List.suffix_cons c rest).isInfix)
    have inside : UpTo closer (rest ++ (trail ++ gap)) (rest ++ (trail ++ ending)) :=
      upTo_text solid unclosed sep' (upTo_text solid (not_infix_of_blanks solid some_closer ht) sep upTo)
    refine ⟨trail ++ gap, ht.append hg, bodyFrom?_closed hcl (fun h => ?_) inside⟩
    have h : '\n' ∈ (c :: rest ++ trail) ++ gap := by simpa using h
    exact (List.mem_append.mp h).elim one_line hgn

theorem body?_of_separates {f : Form} (hf : f ∈ forms) {sep text trail ending : List Char} (separates : Separates sep)
    (hold : Holdable text) (ht : AllBlank trail) (hn : '\n' ∉ trail) (ends : Ends f ending) :
    ∃ gap, AllBlank gap ∧ f.body? (sep ++ (text ++ (trail ++ ending))) = some (text ++ gap) := by
  obtain ⟨gap, hg, body⟩ := bodyFrom?_text hf hold ht hn ends
  refine ⟨gap, hg, body?_of_bodyFrom? ?_⟩
  obtain ⟨c, rest, rfl, hc, hcolon⟩ := hold.front
  rw [List.cons_append, trimStart_dropColon_append sep hc hcolon, separates.skipped]
  exact body

/-! ## What a comment says -/

theorem describe_append_blanks (word : List Char) {text gap : List Char} (hold : Holdable text) (hg : AllBlank gap) :
    describe word (text ++ gap) = describe word text := by
  obtain ⟨c, rest, rfl, hc, -⟩ := hold.front
  have trimmed : trim (c :: rest ++ gap) = trim (c :: rest) := by
    rw [List.cons_append, trim_cons_of_not_blank hc, trim_cons_of_not_blank hc, trimEnd_append_blanks rest hg]
  unfold describe
  rw [trimmed]

/-- What a comment says is told by its word and its text, whatever its form and its layout are. -/
theorem line?_comment [SizeLimit] {keywords : List (List Char)} {r : Recogniser} (hb : Recogniser.build keywords = .ok r)
    (words : ∀ k ∈ keywords, IsRun k) {k word : List Char} (hk : k ∈ keywords) (spelled : sameAscii word k = true)
    {f : Form} (hf : f ∈ forms) {text line : List Char} (comment : Comment f word text line) :
    r.line? line = some (describe word text) := by
  obtain ⟨hold, indent, gap, sep, trail, ending, hi, hg, separates, ⟨ht, hn⟩, ends, rfl⟩ := comment
  obtain ⟨hu, -⟩ := startsSolid_of_build hb
  rw [usable_eq_self words] at hu
  have run : IsRun word := isRun_of_sameAscii spelled (words k hk)
  obtain ⟨behind, hbehind, body⟩ := body?_of_separates hf separates hold ht hn ends
  obtain ⟨c, sep, rfl, outside, apart⟩ := separates.front
  have edge : inWord word.getLast? ≠ isWord c := by
    rw [inWord_getLast run, apart]
    decide
  have reads : Reads f k word (c :: (sep ++ (text ++ (trail ++ ending))))
      (indent ++ f.opener ++ gap ++ word ++ (c :: sep) ++ text ++ trail ++ ending) :=
    ⟨⟨indent, gap, hi, hg, by simp⟩, fold_of_sameAscii spelled (words k hk), List.cons_ne_nil _ _, fun _ => edge⟩
  have marker := marker?_of_reads words hf hk run outside apart reads body
  rw [Recogniser.line?, hu, marker, Option.map_some, describe_append_blanks word hold hbehind]

/-- A line feed in front of the colon, stray delimiters in the text, and another line behind the closer. -/
theorem line?_comment_closed :
    Recogniser.line? ⟨["todo".toList, "FIXME".toList]⟩ "\t<!--Fixme\n:* / // @bob fixme: --x \u00a0 --> y\nz".toList =
      some (describe "Fixme".toList "* / // @bob fixme: --x".toList) := by
  have hb : Recogniser.build ["todo".toList, "FIXME".toList] = .ok ⟨["todo".toList, "FIXME".toList]⟩ := by decide +kernel
  have words : ∀ k ∈ ["todo".toList, "FIXME".toList], IsRun k := by decide
  have hk : "FIXME".toList ∈ ["todo".toList, "FIXME".toList] := by decide
  have hold : Holdable "* / // @bob fixme: --x".toList :=
    ⟨⟨'*', _, rfl, by decide, by decide⟩, by decide, by decide +kernel, by decide +kernel⟩
  have sep : Separates "\n:".toList := .colon (show AllBlank ['\n'] by decide) allBlank_nil
  have ends : Ends ⟨['<', '!', '-', '-'], some ['-', '-', '>']⟩ (' ' :: (['-', '-', '>'] ++ " y\nz".toList)) :=
    .closed rfl " y\nz".toList
  have comment : Comment ⟨['<', '!', '-', '-'], some ['-', '-', '>']⟩ "Fixme".toList "* / // @bob fixme: --x".toList
      "\t<!--Fixme\n:* / // @bob fixme: --x \u00a0 --> y\nz".toList :=
    ⟨hold, ['\t'], [], "\n:".toList, " \u00a0".toList, _, by decide, allBlank_nil, sep, by decide, ends, rfl⟩
  exact line?_comment hb words hk (by decide) (by decide) comment

end MarkerScan.Marker
