import MarkerScan.Proofs.Marker.Grammar
import MarkerScan.Proofs.Text.AsciiCase
import MarkerScan.Proofs.Text.Capitals
/-
  MarkerScan.Proofs.Marker.Kind — the kind of a recognised line and its keyword.

  A line is recognised by the letters of a keyword, and its kind is the word that is written
  there, in capitals. Letters are compared by folding, capitals are another table, and words
  are made of ASCII characters alone. So the kind is the keyword in capitals but for five
  letters (`Text.oddCapitals`), and the word is a whole word but for the two characters
  outside ASCII that fold as `s` and `k` do.

  Proved: `line?_kind`, for every line, also one with line feeds.
-/

namespace MarkerScan.Marker

open Text

/-- A recognised line reads with one of the keywords. -/
theorem exists_reads_of_marker? {keywords : List (List Char)} (solid : ∀ k ∈ keywords, StartsSolid k)
    {line word body : List Char} (h : marker? keywords line = some (word, body)) :
    ∃ f ∈ forms, ∃ k ∈ keywords, ∃ rest, Reads f k word rest line := by
  obtain ⟨f, hf, hm⟩ := List.exists_of_findSome?_eq_some h
  rw [Form.marker?] at hm
  cases hs : f.opened? line with
  | none => rw [hs] at hm; cases hm
  | some s =>
    rw [hs] at hm
    obtain ⟨k, hk, given⟩ := List.exists_of_findSome?_eq_some hm
    obtain ⟨rest, reads, -⟩ := (markerWith?_eq_some_iff hf (solid k hk) hs).mp given
    exact ⟨f, hf, k, hk, rest, reads⟩

/-- The last character of a spelling of a keyword is a word character if that of the keyword is, but for two. -/
theorem inWord_of_folds {word k : List Char} (h : word.map fold = k.map fold) (hk : inWord k.getLast? = true)
    (hlast : ∀ c, word.getLast? = some c → c ≠ '\u017F' ∧ c ≠ '\u212A') : inWord word.getLast? = true := by
  have ends : word.getLast?.map fold = k.getLast?.map fold := by
    rw [← List.getLast?_map, ← List.getLast?_map, h]
  cases hd : k.getLast? with
  | none => rw [hd] at hk; cases hk
  | some d =>
    rw [hd] at hk ends
    obtain ⟨c, hc, letter⟩ := Option.map_eq_some_iff.mp ends
    rw [hc]
    exact isWord_of_fold hk letter (hlast c hc).1 (hlast c hc).2

/-- The word in a line that has the letters of a keyword, and what the kind has of the two. -/
structure KindOf (keywords : List (List Char)) (line : List Char) (kind : String) (k word rest : List Char) : Prop where
  keyword : k ∈ usable keywords
  layout : ∃ f ∈ forms, ∃ indent gap, AllBlank indent ∧ AllBlank gap ∧
    line = indent ++ f.opener ++ gap ++ word ++ rest
  letters : word.map fold = k.map fold
  capitals : kind = String.ofList (upper word)
  /-- It is the keyword in capitals exactly when none of the odd capitals stands, in one of the two, where they differ. -/
  of_keyword : kind = String.ofList (upper k) ↔ ∀ p ∈ word.zip k, SameCapital p.1 p.2
  /-- Behind a keyword that ends in a word character no word goes on, unless it ends in `ſ` or the kelvin sign there. -/
  whole : inWord k.getLast? = true → (∀ c, word.getLast? = some c → c ≠ '\u017F' ∧ c ≠ '\u212A') →
    inWord rest.head? = false

/-- The kind of a recognised line is the word in the line that has the letters of a keyword, in capitals. -/
theorem line?_kind [SizeLimit] {keywords : List (List Char)} {r : Recogniser} (hb : Recogniser.build keywords = .ok r)
    {line : List Char} {found : Found} (h : r.line? line = some found) :
    ∃ k word rest, KindOf keywords line found.kind k word rest := by
  obtain ⟨hu, solid⟩ := startsSolid_of_build hb
  obtain ⟨⟨word, body⟩, hm, rfl⟩ := Option.map_eq_some_iff.mp h
  obtain ⟨f, hf, k, hk, rest, reads⟩ := exists_reads_of_marker? solid hm
  refine ⟨k, word, rest, ?_⟩
  exact {
    keyword := hu ▸ hk
    layout := ⟨f, hf, reads.layout⟩
    letters := reads.letters
    capitals := rfl
    of_keyword := by
      rw [← upper_eq_iff reads.letters]
      exact ⟨fun e => String.ofList_injective e, congrArg String.ofList⟩
    whole := fun ends last => by
      have edge := reads.edge ends
      rw [inWord_of_folds reads.letters ends last] at edge
      simpa using edge.symm }

/-- Letters outside ASCII, one of which has a capital of two characters. -/
theorem line?_kind_outside_ascii : ∃ found, Recogniser.line? ⟨["größe".toList]⟩ "# GRößE: x\n".toList = some found ∧
    found.kind = "GRÖSSE" ∧ ∃ k word rest, KindOf [" größe ".toList] "# GRößE: x\n".toList found.kind k word rest := by
  have hb : Recogniser.build [" größe ".toList] = .ok ⟨["größe".toList]⟩ := by decide +kernel
  have h : Recogniser.line? ⟨["größe".toList]⟩ "# GRößE: x\n".toList = some (describe "GRößE".toList "x".toList) := by
    decide +kernel
  exact ⟨_, h, by decide +kernel, line?_kind hb h⟩

/-- With the kelvin sign for its `K` a keyword is read, but the sign stays in the kind; and with `ſ` for its last
    letter it is read in front of a word character. -/
theorem line?_kind_beside_keyword :
    Recogniser.build ["SKIP".toList, "BUGS".toList] = .ok ⟨["SKIP".toList, "BUGS".toList]⟩ ∧
    (∃ found, Recogniser.line? ⟨["SKIP".toList, "BUGS".toList]⟩ "// S\u212AIP: foo".toList = some found ∧
      ∀ k ∈ usable ["SKIP".toList, "BUGS".toList], found.kind ≠ String.ofList (upper k)) ∧
    marker? ["SKIP".toList, "BUGS".toList] "// BUG\u017Fx foo".toList = some ("BUG\u017F".toList, "x foo".toList) ∧
    isWord 'x' = true := by
  have h : Recogniser.line? ⟨["SKIP".toList, "BUGS".toList]⟩ "// S\u212AIP: foo".toList =
      some (describe "S\u212AIP".toList "foo".toList) := by decide +kernel
  refine ⟨by decide +kernel, ⟨_, h, by decide +kernel⟩, by decide +kernel, by decide⟩

end MarkerScan.Marker
