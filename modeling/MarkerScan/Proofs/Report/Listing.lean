import Mathlib.Data.List.Basic
import MarkerScan.Proofs.Item.Grouping
import MarkerScan.Report.Rendering
/-
  MarkerScan.Proofs.Report.Listing — the listing of a file and that of a terminal.

  The two are written one beside the other: a file has a blank line behind each group, a
  terminal one before it, and only a terminal has colours. `unpainted` deletes the
  sequences that set a colour, ESC `[`, digits and semicolons, `m`. A piece of a listing
  is told by what is left of it wherever it stands (`Leaves`), which is kept when pieces
  are put together, so what is left of a whole listing follows from its pieces.

  Proved:
  - `blank_groups`: over any groups, the blank lines come to the same text.
  - `leaves_painted`: a painted piece leaves its text, if that has no ESC.
  - `terminal_eq_txt`: together, for the items of any list that is not empty.
-/

namespace MarkerScan

/-- No text of the item has the character. -/
structure Item.Lacks (c : Char) (i : Item) : Prop where
  filePath : c ∉ i.filePath.toList
  content : c ∉ i.content.toList
  assignee : ∀ a ∈ i.assignee, c ∉ a.toList
  tags : ∀ tags ∈ i.tags, ∀ t ∈ tags, c ∉ t.toList

instance (c : Char) (i : Item) : Decidable (i.Lacks c) :=
  decidable_of_iff (c ∉ i.filePath.toList ∧ c ∉ i.content.toList ∧ (∀ a ∈ i.assignee, c ∉ a.toList)
      ∧ ∀ tags ∈ i.tags, ∀ t ∈ tags, c ∉ t.toList)
    ⟨fun h => ⟨h.1, h.2.1, h.2.2.1, h.2.2.2⟩, fun h => ⟨h.filePath, h.content, h.assignee, h.tags⟩⟩

namespace Report

/-! ## Blank lines -/

theorem terminalLine_plain (i : Item) : terminalLine false i = itemLine i := rfl

theorem blank_group (g : String × List Item) : "\n" ++ groupText g = terminalGroup false g ++ "\n" := by
  have lines : g.2.map (terminalLine false) = g.2.map itemLine := List.map_congr_left fun i _ => terminalLine_plain i
  rw [terminalGroup, groupText, lines]
  simp only [painted, Bool.false_eq_true, if_false, String.append_assoc]

theorem blank_groups (groups : List (String × List Item)) :
    "\n" ++ String.join (groups.map groupText) = String.join (groups.map (terminalGroup false)) ++ "\n" := by
  induction groups with
  | nil => rfl
  | cons g groups ih =>
    simp only [List.map_cons, String.join_cons]
    calc "\n" ++ (groupText g ++ String.join (groups.map groupText))
        = terminalGroup false g ++ ("\n" ++ String.join (groups.map groupText)) := by
          rw [← String.append_assoc, blank_group, String.append_assoc]
      _ = terminalGroup false g ++ String.join (groups.map (terminalGroup false)) ++ "\n" := by
          rw [ih, ← String.append_assoc]

/-! ## Colours -/

def isParameter (c : Char) : Bool := c.isDigit || c == ';'

/-- Without the sequences that set a colour. -/
def unpainted : List Char → List Char
  | [] => []
  | c :: s =>
    let behind := s.tail.dropWhile isParameter
    if c = '\x1b' ∧ s.head? = some '[' ∧ behind.head? = some 'm' then unpainted behind.tail
    else c :: unpainted s
termination_by s => s.length
decreasing_by
  · have := (List.dropWhile_suffix isParameter (l := s.tail)).length_le
    simp only [List.length_tail, List.length_cons] at *
    omega
  · simp

example : unpainted "\x1b[1;31mred\x1b[0m \x1b[2 m".toList = "red \x1b[2 m".toList := by cbv

/-- What is left of `s` is `plain`, whatever comes next. -/
def Leaves (s plain : String) : Prop := ∀ t, unpainted (s.toList ++ t) = plain.toList ++ unpainted t

def Unescaped (s : String) : Prop := '\x1b' ∉ s.toList

instance (s : String) : Decidable (Unescaped s) := inferInstanceAs (Decidable ('\x1b' ∉ s.toList))

theorem unpainted_cons {c : Char} (h : c ≠ '\x1b') (s : List Char) : unpainted (c :: s) = c :: unpainted s := by
  rw [unpainted, if_neg fun e => h e.1]

theorem unpainted_sequence {parameters : List Char} (h : ∀ c ∈ parameters, isParameter c = true) (s : List Char) :
    unpainted ('\x1b' :: '[' :: (parameters ++ 'm' :: s)) = unpainted s := by
  have behind : (parameters ++ 'm' :: s).dropWhile isParameter = 'm' :: s := by
    rw [List.dropWhile_append_of_pos h, List.dropWhile_cons_of_neg (by decide)]
  rw [unpainted, if_pos ⟨rfl, rfl, by rw [List.tail_cons, behind, List.head?_cons]⟩, List.tail_cons, behind, List.tail_cons]

section
variable {s s' plain plain' : String}

theorem Leaves.append (h : Leaves s plain) (h' : Leaves s' plain') : Leaves (s ++ s') (plain ++ plain') := by
  intro t
  rw [String.toList_append, String.toList_append, List.append_assoc, h, h', List.append_assoc]

theorem Leaves.join {pieces : List α} {painted plain : α → String} (h : ∀ p ∈ pieces, Leaves (painted p) (plain p)) :
    Leaves (String.join (pieces.map painted)) (String.join (pieces.map plain)) := by
  induction pieces with
  | nil => exact fun t => rfl
  | cons p pieces ih =>
    simp only [List.map_cons, String.join_cons]
    exact (h p List.mem_cons_self).append (ih fun q hq => h q (List.mem_cons_of_mem p hq))

theorem Leaves.unpainted (h : Leaves s plain) : unpainted s.toList = plain.toList := by
  have whole := h []
  rwa [List.append_nil, Report.unpainted, List.append_nil] at whole

theorem leaves_self (h : Unescaped s) : Leaves s s := by
  intro t
  unfold Unescaped at h
  generalize s.toList = cs at h ⊢
  induction cs with
  | nil => rfl
  | cons c cs ih =>
    obtain ⟨hc, hcs⟩ := not_or.mp (List.mem_cons.not.mp h)
    rw [List.cons_append, unpainted_cons (Ne.symm hc), ih hcs, List.cons_append]

theorem restart_eq_self (start : List Char) {s : List Char} (h : '\x1b' ∉ s) : restart start s = s := by
  induction s with
  | nil => rfl
  | cons c s ih =>
    obtain ⟨hc, hs⟩ := not_or.mp (List.mem_cons.not.mp h)
    rw [restart, ih hs]
    exact fun rest e => absurd e.symm hc

theorem isParameter_code (p : Paint) : p.code.toList.all isParameter = true := by cases p <;> decide

theorem leaves_painted (color : Bool) (p : Paint) (h : Unescaped s) : Leaves (painted color p s) s := by
  cases color with
  | false => exact leaves_self h
  | true =>
    intro t
    have text : (painted true p s).toList ++ t
        = '\x1b' :: '[' :: (p.code.toList ++ 'm' :: (s.toList ++ ('\x1b' :: '[' :: (['0'] ++ 'm' :: t)))) := by
      rw [painted, if_pos rfl, String.toList_ofList, restart_eq_self p.start h]
      simp [Paint.start, reset]
    rw [text, unpainted_sequence (List.all_eq_true.mp (isParameter_code p)), leaves_self h,
      unpainted_sequence (List.forall_mem_singleton.mpr rfl)]

theorem Unescaped.append (h : Unescaped s) (h' : Unescaped s') : Unescaped (s ++ s') := by
  rw [Unescaped, String.toList_append, List.mem_append, not_or]
  exact ⟨h, h'⟩

end

theorem unescaped_repeated (n : Nat) {c : Char} (h : c ≠ '\x1b') : Unescaped (repeated n c) := by
  rw [Unescaped, repeated, String.toList_ofList]
  exact fun hm => h (List.eq_of_mem_replicate hm).symm

theorem unescaped_number (n : Nat) : Unescaped (toString n) := by
  rw [Unescaped, Nat.toString_eq_repr, Nat.toList_repr]
  exact fun hm => absurd (Nat.isDigit_of_mem_toDigits (by decide) (by decide) hm) (by decide)

theorem unescaped_tags {tags : List String} (h : ∀ t ∈ tags, Unescaped t) :
    Unescaped (" ".intercalate (tags.map ("#" ++ ·))) := by
  induction tags with
  | nil => decide
  | cons t tags ih =>
    have first : Unescaped ("#" ++ t) := Unescaped.append (by decide) (h t List.mem_cons_self)
    cases tags with
    | nil => exact first
    | cons u tags =>
      rw [List.map_cons, List.map_cons, String.intercalate_cons_cons]
      exact (first.append (by decide)).append (ih fun v hv => h v (List.mem_cons_of_mem t hv))

theorem unescaped_suffix {i : Item} (h : i.Lacks '\x1b') : Unescaped i.suffix := by
  have label : ∀ p : Priority, Unescaped (" [" ++ p.label ++ "]") := by intro p; cases p <;> decide
  refine (Unescaped.append ?_ ?_).append ?_
  · cases i.priority with
    | none => exact (by decide : Unescaped "")
    | some p => exact label p
  · cases ha : i.assignee with
    | none => exact (by decide : Unescaped "")
    | some a => exact Unescaped.append (by decide) (h.assignee a ha)
  · cases ht : i.tags with
    | none => exact (by decide : Unescaped "")
    | some tags => exact Unescaped.append (by decide) (unescaped_tags (h.tags tags ht))

/-! ## Listings -/

theorem leaves_line (color : Bool) {i : Item} (h : i.Lacks '\x1b') :
    Leaves (terminalLine color i) (terminalLine false i) :=
  have number := leaves_painted color .green (unescaped_number i.line)
  have suffix := leaves_painted color .cyan (unescaped_suffix h)
  have front := ((leaves_self (s := "  ") (by decide)).append number).append (leaves_self (s := ": ") (by decide))
  ((front.append (leaves_self h.content)).append suffix).append (leaves_self (by decide))

theorem leaves_group (color : Bool) {g : String × List Item} (path : Unescaped g.1)
    (items : ∀ i ∈ g.2, i.Lacks '\x1b') : Leaves (terminalGroup color g) (terminalGroup false g) := by
  have newline : Leaves "\n" "\n" := leaves_self (by decide)
  have title := (newline.append (leaves_painted color .blue path)).append newline
  have under : Leaves (underline g.1) (underline g.1) := leaves_self (unescaped_repeated _ (by decide))
  exact ((title.append under).append newline).append (Leaves.join fun i hi => leaves_line color (items i hi))

theorem leaves_terminal (color : Bool) {items : List Item} (h : ∀ i ∈ items, i.Lacks '\x1b') :
    Leaves (terminal color items) (terminal false items) := by
  have groups : ∀ g ∈ Item.byFile items, Leaves (terminalGroup color g) (terminalGroup false g) := by
    intro g hg
    obtain ⟨hne, from_items⟩ := Item.mem_byFile hg
    obtain ⟨i, hi⟩ := List.exists_mem_of_ne_nil g.2 hne
    have path : Unescaped g.1 := (from_items i hi).2 ▸ (h i (from_items i hi).1).filePath
    exact leaves_group color path fun j hj => h j (from_items j hj).1
  have newline : Leaves "\n" "\n" := leaves_self (by decide)
  cases items with
  | nil => exact (leaves_painted color .yellow (by decide)).append newline
  | cons i items =>
    have title : Leaves (painted color .bold "TODO list") "TODO list" := leaves_painted color .bold (by decide)
    have ruled : Leaves rule rule := leaves_self (unescaped_repeated _ (by decide))
    have found : Leaves (foundLine (i :: items)) (foundLine (i :: items)) :=
      leaves_self ((Unescaped.append (by decide) (unescaped_number _)).append (by decide))
    have head := ((title.append newline).append ruled).append newline
    exact ((head.append (Leaves.join groups)).append newline).append found

/-- The listing of a file and that of a terminal without colours are the same but for the
time in the first line, and so is that of a terminal with colours, once these are deleted, if no
text of an item has an ESC. -/
theorem terminal_eq_txt {items : List Item} (hne : items ≠ []) :
    ∃ rest, (∀ time, txt time items = "TODO list" ++ (" - " ++ time) ++ "\n" ++ rest)
      ∧ terminal false items = "TODO list" ++ "\n" ++ rest
      ∧ ((∀ i ∈ items, i.Lacks '\x1b') →
          String.ofList (unpainted (terminal true items).toList) = "TODO list" ++ "\n" ++ rest) := by
  let groups := String.join ((Item.byFile items).map groupText)
  have some_items : ¬ items.isEmpty = true := by simp [hne]
  have plain : terminal false items = "TODO list" ++ "\n" ++ (rule ++ "\n\n" ++ groups ++ foundLine items) :=
    calc terminal false items
        = "TODO list" ++ "\n" ++ rule ++ "\n"
            ++ (String.join ((Item.byFile items).map (terminalGroup false)) ++ "\n") ++ foundLine items := by
          rw [terminal, if_neg some_items, painted, if_neg Bool.false_ne_true]
          simp only [String.append_assoc]
      _ = "TODO list" ++ "\n" ++ rule ++ "\n" ++ ("\n" ++ groups) ++ foundLine items := by rw [← blank_groups]
      _ = "TODO list" ++ "\n" ++ (rule ++ ("\n" ++ "\n") ++ groups ++ foundLine items) := by
          simp only [String.append_assoc]
  refine ⟨_, fun time => ?_, plain, fun h => ?_⟩
  · have title : "TODO list - " = "TODO list" ++ " - " := by decide
    unfold txt
    simp only [if_neg some_items, title, String.append_assoc, groups]
  · rw [(leaves_terminal true h).unpainted, String.ofList_toList, plain]

/-- Two files by turns: the second item of the first file stands in the group of the first. -/
theorem terminal_eq_txt_two_files :
    let items : List Item :=
      [⟨"src/a.rs", 12, "[TODO] drain [0m", some .high, some "ada", none⟩, ⟨"b.py", 3, "[FIXME] ", none, none, some ["io", "io"]⟩,
        ⟨"src/a.rs", 40, "[TODO] é", none, none, some []⟩]
    items ≠ [] ∧ (∀ i ∈ items, i.Lacks '\x1b') ∧
      ∃ rest, (∀ time, txt time items = "TODO list" ++ (" - " ++ time) ++ "\n" ++ rest)
        ∧ terminal false items = "TODO list" ++ "\n" ++ rest
        ∧ String.ofList (unpainted (terminal true items).toList) = "TODO list" ++ "\n" ++ rest := by
  intro items
  have hne : items ≠ [] := List.cons_ne_nil _ _
  have lacks : ∀ i ∈ items, i.Lacks '\x1b' := by decide
  obtain ⟨rest, file, plain, colors⟩ := terminal_eq_txt hne
  exact ⟨hne, lacks, rest, file, plain, colors lacks⟩

end Report

end MarkerScan
