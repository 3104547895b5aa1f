import MarkerScan.Proofs.Text.Lines
import MarkerScan.Proofs.Text.Utf8
import MarkerScan.Scan.Scanner
/-
  MarkerScan.Proofs.Scan.Locality — the items of a file, line by line.

  The items of a list of lines are those of each line, numbered from where the list starts
  (`itemsFrom_append`, `itemsFrom_add`). A line feed byte is always a line feed of the text,
  so the bytes before it and those behind it are decoded, cut into lines and recognised on
  their own.

  Proved, for files that are read with substitutes for what is not UTF-8:
  - `items_append`: the items of a text with a line feed in it are those of its two parts.
  - `besides_items`: what stands on one line makes no difference for the others.
  - `lossy_items_apart`: both for bytes.
-/

namespace MarkerScan

/-- The item so many lines further down. -/
def Item.down (n : Nat) (i : Item) : Item := { i with line := i.line + n }

namespace Marker.Recogniser

variable {r : Recogniser} {path : String}

/-- The items of lines that are counted from `n`. -/
def itemsFrom (r : Recogniser) (path : String) (n : Nat) (ls : List (List Char)) : List Item :=
  (ls.zipIdx n).filterMap fun (l, n) => (r.line? l).map (·.item path n)

theorem items_eq (r : Recogniser) (path : String) (text : List Char) :
    r.items path text = r.itemsFrom path 1 (Text.lines (dropByteOrderMark text)) := rfl

theorem itemsFrom_append (n : Nat) (a b : List (List Char)) :
    r.itemsFrom path n (a ++ b) = r.itemsFrom path n a ++ r.itemsFrom path (n + a.length) b := by
  rw [itemsFrom, List.zipIdx_append, List.filterMap_append]
  rfl

theorem itemsFrom_add (n k : Nat) (ls : List (List Char)) :
    r.itemsFrom path (n + k) ls = (r.itemsFrom path n ls).map (Item.down k) := by
  induction ls generalizing n with
  | nil => rfl
  | cons l ls ih =>
    have next := ih (n + 1)
    rw [Nat.add_right_comm] at next
    simp only [itemsFrom, List.zipIdx_cons, List.filterMap_cons] at next ⊢
    cases r.line? l with
    | none => exact next
    | some found => exact congrArg _ next

theorem line?_nil : r.line? [] = none := rfl

/-- The number of each item is that of its line. -/
theorem line_of_mem_itemsFrom {n : Nat} {ls : List (List Char)} {i : Item} (h : i ∈ r.itemsFrom path n ls) :
    n ≤ i.line ∧ i.line < n + ls.length := by
  obtain ⟨⟨l, m⟩, hm, hi⟩ := List.mem_filterMap.mp h
  obtain ⟨found, -, rfl⟩ := Option.map_eq_some_iff.mp hi
  obtain ⟨hge, hlt, -⟩ := List.mem_zipIdx hm
  exact ⟨hge, hlt⟩

/-! ## Texts -/

/-- A byte-order mark stands in the part before a line feed, if anywhere. -/
theorem dropByteOrderMark_append (a b : List Char) :
    dropByteOrderMark (a ++ '\n' :: b) = dropByteOrderMark a ++ '\n' :: b := by
  cases a with
  | nil => rfl
  | cons c a =>
    by_cases hc : c = '\uFEFF'
    · subst hc
      rfl
    · simp [dropByteOrderMark, hc]

theorem dropByteOrderMark_eq {s : List Char} (h : s.head? ≠ some '\uFEFF') : dropByteOrderMark s = s := by
  cases s with
  | nil => rfl
  | cons c s =>
    have hc : c ≠ '\uFEFF' := by simpa using h
    simp [dropByteOrderMark, hc]

/-- Without the mark the text is one character shorter at its front, or as it was. -/
theorem exists_front_dropByteOrderMark (s : List Char) : ∃ front, '\n' ∉ front ∧ s = front ++ dropByteOrderMark s := by
  cases s with
  | nil => exact ⟨[], by simp, rfl⟩
  | cons c s =>
    by_cases hc : c = '\uFEFF'
    · subst hc
      exact ⟨['\uFEFF'], by decide, rfl⟩
    · exact ⟨[], by simp, by simp [dropByteOrderMark, hc]⟩

/-- A line feed parts the items of a text: what stands behind it is numbered from there. -/
theorem items_append {a b : List Char} (ha : a.getLast? ≠ some '\r') (hb : b.head? ≠ some '\uFEFF') :
    r.items path (a ++ '\n' :: b) = r.items path a ++ (r.items path b).map (Item.down (1 + a.count '\n')) := by
  obtain ⟨front, hf, hfa⟩ := exists_front_dropByteOrderMark a
  simp only [items_eq, dropByteOrderMark_append, dropByteOrderMark_eq hb]
  generalize dropByteOrderMark a = s at *
  subst hfa
  have hs : s.getLast? ≠ some '\r' := by
    intro h
    rw [List.getLast?_append, h] at ha
    exact ha rfl
  have count : (front ++ s).count '\n' = s.count '\n' := by
    rw [List.count_append, List.count_eq_zero.mpr hf, Nat.zero_add]
  have before : r.itemsFrom path 1 ((Text.split '\n' s).map Text.dropReturn) = r.itemsFrom path 1 (Text.lines s) := by
    rw [Text.map_dropReturn_split hs, itemsFrom_append]
    split
    · simp [itemsFrom, line?_nil]
    · simp [itemsFrom]
  rw [Text.lines_append, itemsFrom_append, before, List.length_map, Text.length_split, itemsFrom_add, count,
    Nat.add_comm 1]

/-! ## One line and the others -/

/-- What is found on lines other than one. -/
def besides (n : Nat) (items : List Item) : List Item := items.filter (·.line != n)

theorem besides_append (n : Nat) (a b : List Item) : besides n (a ++ b) = besides n a ++ besides n b :=
  List.filter_append a b

theorem besides_itemsFrom {n : Nat} {ls : List (List Char)} (h : ls.length ≤ 1) :
    besides n (r.itemsFrom path n ls) = [] := by
  refine List.filter_eq_nil_iff.mpr fun i hi => ?_
  obtain ⟨hge, hlt⟩ := line_of_mem_itemsFrom hi
  simp
  omega

/-- What stands on a line makes no difference for the lines behind it. -/
theorem besides_lines {l back : List Char} (hl : '\n' ∉ l) (hback : back = [] ∨ ∃ b, back = '\n' :: b) (n : Nat) :
    besides n (r.itemsFrom path n (Text.lines (l ++ back))) = besides n (r.itemsFrom path n (Text.lines back)) := by
  have alone : Text.split '\n' l = [l] := Text.split_of_no_sep hl
  rcases hback with rfl | ⟨b, rfl⟩
  · have one : (Text.lines l).length ≤ 1 := by
      rw [Text.lines, alone]
      cases l <;> simp
    rw [List.append_nil, besides_itemsFrom one]
    rfl
  · rw [Text.lines_append, alone, ← List.nil_append ('\n' :: b), Text.lines_append]
    simp only [itemsFrom_append, besides_append]
    rw [besides_itemsFrom (by simp), besides_itemsFrom (by simp [Text.split_nil])]
    rfl

theorem dropByteOrderMark_line {l back : List Char} (hback : back = [] ∨ ∃ b, back = '\n' :: b) :
    dropByteOrderMark (l ++ back) = dropByteOrderMark l ++ back := by
  rcases hback with rfl | ⟨b, rfl⟩
  · rw [List.append_nil, List.append_nil]
  · exact dropByteOrderMark_append l b

/-- What stands on a line makes no difference for the others. -/
theorem besides_items {front l back : List Char} (hfront : front = [] ∨ ∃ a, front = a ++ ['\n']) (hl : '\n' ∉ l)
    (hback : back = [] ∨ ∃ b, back = '\n' :: b) :
    besides (front.count '\n' + 1) (r.items path (front ++ (l ++ back))) =
      besides (front.count '\n' + 1) (r.items path (front ++ back)) := by
  rcases hfront with rfl | ⟨a, rfl⟩
  · have bare : '\n' ∉ dropByteOrderMark l := by
      obtain ⟨mark, -, hm⟩ := exists_front_dropByteOrderMark l
      intro h
      exact hl (by rw [hm]; exact List.mem_append_right _ h)
    have empty : dropByteOrderMark back = back := by
      simpa [dropByteOrderMark] using dropByteOrderMark_line (l := []) hback
    simp only [List.nil_append, items_eq, dropByteOrderMark_line hback, empty]
    exact besides_lines bare hback 1
  · have count : (dropByteOrderMark a).count '\n' = a.count '\n' := by
      obtain ⟨mark, hmark, hm⟩ := exists_front_dropByteOrderMark a
      conv_rhs => rw [hm, List.count_append, List.count_eq_zero.mpr hmark, Nat.zero_add]
    have place : 1 + ((Text.split '\n' (dropByteOrderMark a)).map Text.dropReturn).length =
        (a ++ ['\n']).count '\n' + 1 := by
      rw [List.length_map, Text.length_split, count, List.count_append]
      simp [Nat.add_comm]
    simp only [List.append_assoc, List.singleton_append, items_eq, dropByteOrderMark_append, Text.lines_append,
      itemsFrom_append, besides_append, place]
    rw [besides_lines hl hback]

end Marker.Recogniser

/-! ## Bytes -/

namespace FileReader

open Text.Utf8 (decodeLossy decodeLossy_append count_decodeLossy getLast?_decodeLossy mark_of_decodeLossy)
open Marker.Recogniser (besides)

variable {r : FileReader}

theorem items_lossy (hr : r.mode = .lossy) (path shown : String) (bytes : List UInt8) :
    r.items path shown (.ok ⟨⟨bytes⟩⟩) = .ok (bytes.length, r.recogniser.items shown (decodeLossy ⟨⟨bytes⟩⟩)) := by
  simp only [items, hr, EncodingMode.decode]
  rfl

theorem newline_ascii : (0x0A : UInt8) < 0x80 := by decide

theorem not_mem_decodeLossy {bytes : List UInt8} (h : 0x0A ∉ bytes) : '\n' ∉ decodeLossy ⟨⟨bytes⟩⟩ := by
  rw [← List.count_eq_zero] at h ⊢
  exact (count_decodeLossy newline_ascii bytes).trans h

/-- The text of the lines before a line. -/
theorem decodeLossy_front {front : List UInt8} (h : front = [] ∨ front.getLast? = some 0x0A) :
    (decodeLossy ⟨⟨front⟩⟩ = [] ∨ ∃ a, decodeLossy ⟨⟨front⟩⟩ = a ++ ['\n']) ∧
      ∀ rest, decodeLossy ⟨⟨front ++ rest⟩⟩ = decodeLossy ⟨⟨front⟩⟩ ++ decodeLossy ⟨⟨rest⟩⟩ := by
  rcases h with rfl | h
  · exact ⟨.inl rfl, fun rest => rfl⟩
  · obtain ⟨a, rfl⟩ := List.getLast?_eq_some_iff.mp h
    have whole := decodeLossy_append newline_ascii a []
    refine ⟨.inr ⟨_, whole⟩, fun rest => ?_⟩
    rw [whole, List.append_assoc, List.singleton_append, decodeLossy_append newline_ascii, List.append_assoc]
    rfl

/-- The text of a line and of what follows it. -/
theorem decodeLossy_back {back : List UInt8} (h : back = [] ∨ back.head? = some 0x0A) :
    (decodeLossy ⟨⟨back⟩⟩ = [] ∨ ∃ b, decodeLossy ⟨⟨back⟩⟩ = '\n' :: b) ∧
      ∀ line, decodeLossy ⟨⟨line ++ back⟩⟩ = decodeLossy ⟨⟨line⟩⟩ ++ decodeLossy ⟨⟨back⟩⟩ := by
  rcases h with rfl | h
  · exact ⟨.inl rfl, fun line => by rw [List.append_nil]; exact (List.append_nil _).symm⟩
  · obtain ⟨b, rfl⟩ := List.head?_eq_some_iff.mp h
    have whole := decodeLossy_append newline_ascii [] b
    refine ⟨.inr ⟨_, whole⟩, fun line => ?_⟩
    rw [decodeLossy_append newline_ascii]
    exact congrArg _ whole.symm

/-- Bytes read with substitutes for what is not UTF-8. A line feed parts them: the items are those of the bytes before
    it, and those of the bytes behind it numbered from there. And whatever the bytes of one line are, the items of the
    other lines are the same, with the same numbers. -/
theorem lossy_items_apart (hr : r.mode = .lossy) (path shown : String) :
    (∀ a b : List UInt8, a.getLast? ≠ some 0x0D → ¬ [0xEF, 0xBB, 0xBF] <+: b →
      ∃ first second,
        r.items path shown (.ok ⟨⟨a⟩⟩) = .ok (a.length, first) ∧
        r.items path shown (.ok ⟨⟨b⟩⟩) = .ok (b.length, second) ∧
        r.items path shown (.ok ⟨⟨a ++ [0x0A] ++ b⟩⟩) =
          .ok (a.length + 1 + b.length, first ++ second.map (Item.down (1 + a.count 0x0A)))) ∧
    ∀ front line line' back : List UInt8, (front = [] ∨ front.getLast? = some 0x0A) →
      0x0A ∉ line → 0x0A ∉ line' → (back = [] ∨ back.head? = some 0x0A) →
      ∃ found found',
        r.items path shown (.ok ⟨⟨front ++ line ++ back⟩⟩) = .ok ((front ++ line ++ back).length, found) ∧
        r.items path shown (.ok ⟨⟨front ++ line' ++ back⟩⟩) = .ok ((front ++ line' ++ back).length, found') ∧
        found.filter (·.line != front.count 0x0A + 1) = found'.filter (·.line != front.count 0x0A + 1) := by
  constructor
  · intro a b ha hb
    refine ⟨_, _, items_lossy hr path shown a, items_lossy hr path shown b, ?_⟩
    have hta : (decodeLossy ⟨⟨a⟩⟩).getLast? ≠ some '\r' := fun h => ha (getLast?_decodeLossy (c := 0x0D) (by decide) h)
    have htb : (decodeLossy ⟨⟨b⟩⟩).head? ≠ some '\uFEFF' := fun h => hb (mark_of_decodeLossy h)
    have count : (decodeLossy ⟨⟨a⟩⟩).count '\n' = a.count 0x0A := count_decodeLossy newline_ascii a
    rw [items_lossy hr, ← count, ← Marker.Recogniser.items_append hta htb, List.append_assoc, List.singleton_append,
      decodeLossy_append newline_ascii, List.length_append, List.length_cons]
    simp only [Nat.add_assoc, Nat.add_comm 1]
    rfl
  · intro front line line' back hfront hline hline' hback
    refine ⟨_, _, items_lossy hr path shown _, items_lossy hr path shown _, ?_⟩
    obtain ⟨htfront, splitFront⟩ := decodeLossy_front hfront
    obtain ⟨htback, splitBack⟩ := decodeLossy_back hback
    have count : (decodeLossy ⟨⟨front⟩⟩).count '\n' = front.count 0x0A := count_decodeLossy newline_ascii front
    have besideLine : ∀ l : List UInt8, 0x0A ∉ l →
        besides (front.count 0x0A + 1) (r.recogniser.items shown (decodeLossy ⟨⟨front ++ l ++ back⟩⟩)) =
          besides (front.count 0x0A + 1) (r.recogniser.items shown (decodeLossy ⟨⟨front ++ back⟩⟩)) := by
      intro l hl
      rw [List.append_assoc, splitFront, splitFront, splitBack, ← count]
      exact Marker.Recogniser.besides_items htfront (not_mem_decodeLossy hl) htback
    exact (besideLine line hline).trans (besideLine line' hline').symm

/-- The first line ends within a character, whose last byte starts the second one: both lines keep their substitute,
    and the third line its marker and its number, whatever is on the second. -/
theorem lossy_items_apart_cut_character :
    let r : FileReader := ⟨⟨["TODO".toList]⟩, .lossy⟩
    let a : List UInt8 := [47, 47, 84, 79, 68, 79, 32, 0xE2, 0x82]
    let b : List UInt8 := [0xAC, 0x0A, 35, 84, 79, 68, 79, 32, 98]
    r.items "x" "x" (.ok ⟨⟨a ++ [0x0A] ++ b⟩⟩) = .ok (19,
      [⟨"x", 1, "[TODO] \uFFFD", none, none, none⟩, ⟨"x", 3, "[TODO] b", none, none, none⟩]) ∧
    ∃ found found', r.items "x" "x" (.ok ⟨⟨a ++ [0x0A] ++ [0xAC] ++ b.tail⟩⟩) = .ok (19, found) ∧
      r.items "x" "x" (.ok ⟨⟨a ++ [0x0A] ++ [] ++ b.tail⟩⟩) = .ok (18, found') ∧
      found.filter (·.line != 2) = found'.filter (·.line != 2) := by
  intro r a b
  obtain ⟨apart, others⟩ := lossy_items_apart (r := r) rfl "x" "x"
  obtain ⟨first, second, hfirst, hsecond, hboth⟩ := apart a b (by decide) (by decide)
  have before : r.items "x" "x" (.ok ⟨⟨a⟩⟩) = .ok (9, [⟨"x", 1, "[TODO] \uFFFD", none, none, none⟩]) := by decide +kernel
  have behind : r.items "x" "x" (.ok ⟨⟨b⟩⟩) = .ok (9, [⟨"x", 2, "[TODO] b", none, none, none⟩]) := by decide +kernel
  obtain ⟨-, rfl⟩ := Prod.mk.inj (Except.ok.inj (hfirst.symm.trans before))
  obtain ⟨-, rfl⟩ := Prod.mk.inj (Except.ok.inj (hsecond.symm.trans behind))
  exact ⟨hboth, others (a ++ [0x0A]) [0xAC] [] b.tail (.inr (by decide)) (by decide) (by decide) (.inr (by decide))⟩

end FileReader

end MarkerScan
