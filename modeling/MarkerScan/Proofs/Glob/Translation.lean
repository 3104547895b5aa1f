import MarkerScan.Glob.Basic
import MarkerScan.Proofs.Glob.Matching
/-
  MarkerScan.Proofs.Glob.Translation — a glob pattern and its text pattern match the same paths.

  A text pattern reads a class of texts when its ways from a place are those of reading any
  text of the class that comes next (`Reads`). The translation of an element reads the
  texts that the element fits (`reads_translation`). So a way of the whole translation is a
  split of the path (`mem_ways_translation`), and there is one exactly if the marks find
  that the elements match (`isSome_captures?_translation`).
-/

namespace MarkerScan.Glob

open Text (Pattern Reading)

/-- The reading behind `part`, with `rest` to come. -/
def onward (s : Reading) (part rest : List Char) : Reading := ⟨part.reverse ++ s.before, rest, s.groups⟩

/-- The ways of the pattern are to read a text of the class, any that comes next. -/
def Reads (p : Pattern) (P : List Char → Prop) : Prop :=
  ∀ s t, t ∈ p.ways s ↔ ∃ part rest, s.rest = part ++ rest ∧ P part ∧ t = onward s part rest

variable {p q : Pattern} {P Q : List Char → Prop} {fits : Char → Bool}

theorem reads_congr (h : ∀ s, P s ↔ Q s) (hp : Reads p P) : Reads p Q := fun s t => by
  simp only [hp s t, h]

theorem reads_one : Reads (.one fits) (OneOf fits) := by
  rintro ⟨before, text, groups⟩ t
  cases text with
  | nil =>
    constructor
    · intro h
      cases h
    · rintro ⟨part, rest, h, ⟨c, rfl, -⟩, -⟩
      cases h
  | cons c text =>
    rw [Pattern.ways_one_cons]
    constructor
    · intro h
      split at h
      case isTrue hc => exact ⟨[c], text, rfl, ⟨c, rfl, hc⟩, List.mem_singleton.mp h⟩
      case isFalse => cases h
    · rintro ⟨_, rest, h, ⟨d, rfl, hd⟩, rfl⟩
      obtain ⟨rfl, rfl⟩ := List.cons.inj h
      rw [if_pos hd]
      exact List.mem_singleton_self _

theorem reads_many : Reads (.many fits) (RunOf fits) := by
  rintro ⟨before, text, groups⟩ t
  rw [Pattern.ways_many]
  induction text generalizing before with
  | nil =>
    constructor
    · intro h
      exact ⟨[], [], rfl, by simp [RunOf], List.mem_singleton.mp h⟩
    · rintro ⟨part, rest, h, -, rfl⟩
      obtain ⟨rfl, rfl⟩ := List.append_eq_nil_iff.mp h.symm
      exact List.mem_singleton_self _
  | cons c text ih =>
    simp only [Pattern.longest_cons, List.mem_append, List.mem_singleton]
    constructor
    · rintro (h | rfl)
      · split at h
        case isTrue hc =>
          obtain ⟨part, rest, hr, hpart, rfl⟩ := (ih (c :: before)).mp h
          refine ⟨c :: part, rest, congrArg (c :: ·) hr, ?_, by simp [onward]⟩
          simpa [RunOf, hc] using hpart
        case isFalse => cases h
      · exact ⟨[], c :: text, rfl, by simp [RunOf], rfl⟩
    · rintro ⟨part, rest, h, hpart, rfl⟩
      cases part with
      | nil =>
        obtain rfl : c :: text = rest := h
        exact .inr rfl
      | cons d part =>
        obtain ⟨rfl, hr⟩ := List.cons.inj h
        have hc : fits c = true := hpart c (List.mem_cons_self ..)
        rw [if_pos hc]
        exact .inl ((ih (c :: before)).mpr
          ⟨part, rest, hr, fun x hx => hpart x (List.mem_cons_of_mem _ hx), by simp [onward]⟩)

theorem reads_seq (hp : Reads p P) (hq : Reads q Q) : Reads (.seq p q) (Then P Q) := by
  intro s t
  rw [Pattern.ways, List.mem_flatMap]
  constructor
  · rintro ⟨m, hm, ht⟩
    obtain ⟨a, r, hs, ha, rfl⟩ := (hp s m).mp hm
    obtain ⟨b, rest, hr, hb, rfl⟩ := (hq _ t).mp ht
    obtain rfl : r = b ++ rest := hr
    exact ⟨a ++ b, rest, by rw [hs, List.append_assoc], ⟨a, b, rfl, ha, hb⟩, by simp [onward]⟩
  · rintro ⟨_, rest, hs, ⟨a, b, rfl, ha, hb⟩, rfl⟩
    refine ⟨onward s a (b ++ rest), (hp _ _).mpr ⟨a, b ++ rest, ?_, ha, rfl⟩, (hq _ _).mpr ⟨b, rest, rfl, hb, ?_⟩⟩
    · rw [hs, List.append_assoc]
    · simp [onward]

theorem reads_optional (hp : Reads p P) : Reads (.optional p) (fun s => s = [] ∨ P s) := by
  intro s t
  have none : t = s ↔ t = onward s [] s.rest := Iff.rfl
  simp only [Pattern.optional, Pattern.ways, List.mem_append, List.mem_singleton, hp s t]
  constructor
  · rintro (⟨part, rest, hs, hpart, rfl⟩ | rfl)
    · exact ⟨part, rest, hs, .inr hpart, rfl⟩
    · exact ⟨[], t.rest, rfl, .inl rfl, rfl⟩
  · rintro ⟨part, rest, hs, rfl | hpart, rfl⟩
    · exact .inr (none.mpr (by rw [hs, List.nil_append]))
    · exact .inl ⟨part, rest, hs, hpart, rfl⟩

theorem reads_translation (p : Piece) : Reads p.translation p.Fits := by
  cases p with
  | below => exact reads_congr (fun _ => fits_below.symm) (reads_optional (reads_seq reads_one reads_many))
  | directories => exact reads_congr (fun _ => fits_directories.symm) (reads_optional (reads_seq reads_many reads_one))
  | anything => exact reads_congr (fun _ => runOf_notNewline) reads_many
  | segment => exact reads_congr (fun _ => runOf_notSlash) reads_many
  | one => exact reads_congr (fun _ => fits_one.symm) reads_one
  | exactly c => exact reads_congr (fun _ => fits_exactly.symm) reads_one

theorem mem_ways_translation {pieces : List Piece} {s t : Reading} :
    t ∈ (translation pieces).ways s ↔ Splits pieces s.rest ∧ t = onward s s.rest [] := by
  induction pieces generalizing s with
  | nil =>
    rw [translation, Pattern.ways_finish, splits_nil]
    obtain ⟨before, text, groups⟩ := s
    cases text <;> simp [onward]
  | cons p pieces ih =>
    rw [translation, Pattern.ways, List.mem_flatMap, splits_cons]
    constructor
    · rintro ⟨m, hm, ht⟩
      obtain ⟨part, rest, hs, hpart, rfl⟩ := (reads_translation p s m).mp hm
      obtain ⟨hrest, rfl⟩ := ih.mp ht
      refine ⟨⟨part, rest, hs, hpart, hrest⟩, ?_⟩
      rw [hs]
      simp [onward]
    · rintro ⟨⟨part, rest, hs, hpart, hrest⟩, rfl⟩
      refine ⟨onward s part rest, (reads_translation p _ _).mpr ⟨part, rest, hs, hpart, rfl⟩, ih.mpr ⟨hrest, ?_⟩⟩
      rw [hs]
      simp [onward]

theorem isSome_captures?_translation {pieces : List Piece} {path : List Char} :
    ((translation pieces).captures? path).isSome = matchesPieces pieces path := by
  rw [Bool.eq_iff_iff, matchesPieces_iff, Pattern.captures?, Option.isSome_map, List.isSome_head?,
    ← List.isEmpty_eq_false_iff, List.isEmpty_eq_false_iff_exists_mem]
  simp only [mem_ways_translation, exists_and_left, exists_eq, and_true]

end MarkerScan.Glob
