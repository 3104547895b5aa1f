import Mathlib.Data.List.Basic
import Mathlib.Data.List.Induction
import MarkerScan.Item.Basic
/-
  MarkerScan.Proofs.Item.Grouping — what the groups of a list of items are made of.

  Proved:
  - `addToGroups_map`: what one more item does to the groups of some paths: it comes last in
    the group of its path, or it starts one behind the others.
  - `byFile_eq`: so the groups are those of the paths in the order in which they first appear
    (`paths`), each with all items of its path in their order. No group is empty
    (`mem_byFile`), and together they are the items of the list (`perm_groups`).
  - `flatMap_byFile_blocks`: where the items of each path stand together, the groups one
    behind the other are the list itself.
-/

namespace MarkerScan.Item

theorem byFile_concat (items : List Item) (i : Item) : byFile (items ++ [i]) = addToGroups i (byFile items) := by
  simp [byFile]

/-! ## The paths -/

/-- The paths of the items, each where it first appears. -/
def paths (items : List Item) : List String := (items.map (·.filePath)).eraseDups

/-- The items of one path, in their order. -/
def ofPath (path : String) (items : List Item) : List Item := items.filter (·.filePath = path)

variable {items : List Item} {i : Item} {path : String}

theorem mem_paths : path ∈ paths items ↔ ∃ i ∈ items, i.filePath = path := by
  rw [paths, List.mem_eraseDups, List.mem_map]

theorem eraseDups_concat (names : List String) (name : String) :
    (names ++ [name]).eraseDups = if name ∈ names then names.eraseDups else names.eraseDups ++ [name] := by
  rw [List.eraseDups_append]
  split
  case isTrue h => simp [List.removeAll, h]
  case isFalse h => simp [List.removeAll, h, List.eraseDups_cons]

theorem paths_concat (items : List Item) (i : Item) :
    paths (items ++ [i]) = if i.filePath ∈ paths items then paths items else paths items ++ [i.filePath] := by
  rw [paths, List.map_append, List.map_singleton, eraseDups_concat]
  simp only [paths, List.mem_eraseDups]

/-- The place of the first item with a path. -/
def firstAt (path : String) (items : List Item) : Nat := (items.map (·.filePath)).idxOf path

theorem firstAt_concat_of_mem (h : path ∈ paths items) (i : Item) :
    firstAt path (items ++ [i]) = firstAt path items ∧ firstAt path items < items.length := by
  have mem : path ∈ items.map (·.filePath) := List.mem_eraseDups.mp h
  have lt := List.idxOf_lt_length_of_mem mem
  rw [List.length_map] at lt
  refine ⟨?_, lt⟩
  rw [firstAt, List.map_append, List.idxOf_append, if_pos mem]
  rfl

theorem firstAt_concat_self (h : i.filePath ∉ paths items) : firstAt i.filePath (items ++ [i]) = items.length := by
  have first : i.filePath ∉ items.map (·.filePath) := fun mem => h (List.mem_eraseDups.mpr mem)
  rw [firstAt, List.map_append, List.idxOf_append, if_neg first]
  simp

/-- A path that appears first stands first. -/
theorem paths_inOrder (items : List Item) :
    (paths items).Pairwise fun a b => firstAt a items < firstAt b items := by
  induction items using List.reverseRecOn with
  | nil => exact List.Pairwise.nil
  | append_singleton items i ih =>
    have before : (paths items).Pairwise fun a b => firstAt a (items ++ [i]) < firstAt b (items ++ [i]) := by
      refine ih.imp_of_mem fun ha hb h => ?_
      rw [(firstAt_concat_of_mem ha i).1, (firstAt_concat_of_mem hb i).1]
      exact h
    rw [paths_concat]
    split
    case isTrue => exact before
    case isFalse h =>
      refine List.pairwise_append.mpr ⟨before, List.pairwise_singleton _ _, fun a ha b hb => ?_⟩
      rw [List.mem_singleton.mp hb, firstAt_concat_self h, (firstAt_concat_of_mem ha i).1]
      exact (firstAt_concat_of_mem ha i).2

theorem nodup_paths (items : List Item) : (paths items).Nodup :=
  (paths_inOrder items).imp fun h same => absurd h (by rw [same]; exact Nat.lt_irrefl _)

theorem ofPath_concat (path : String) (items : List Item) (i : Item) :
    ofPath path (items ++ [i]) = if i.filePath = path then ofPath path items ++ [i] else ofPath path items := by
  unfold ofPath
  rw [List.filter_append]
  split
  case isTrue h => simp [h]
  case isFalse h => simp [h]

theorem ofPath_eq_nil (h : path ∉ paths items) : ofPath path items = [] := by
  refine List.filter_eq_nil_iff.mpr fun i hi hp => h (mem_paths.mpr ⟨i, hi, ?_⟩)
  simpa using hp

/-! ## The groups -/

/-- An item goes to the end of the group of its path, and to a group of its own if there is none. -/
theorem addToGroups_map {group : String → List Item} {names : List String} (hnames : names.Nodup) :
    addToGroups i (names.map fun path => (path, group path)) =
      if i.filePath ∈ names then
        names.map fun path => (path, if i.filePath = path then group path ++ [i] else group path)
      else (names.map fun path => (path, group path)) ++ [(i.filePath, [i])] := by
  induction names with
  | nil => rfl
  | cons name names ih =>
    obtain ⟨first, rest⟩ := List.nodup_cons.mp hnames
    rw [List.map_cons, addToGroups]
    by_cases h : name = i.filePath
    · subst h
      have others : names.map (fun path => (path, if i.filePath = path then group path ++ [i] else group path)) =
          names.map fun path => (path, group path) :=
        List.map_congr_left fun path hp => by rw [if_neg (ne_of_mem_of_not_mem hp first).symm]
      simp [others]
    · rw [if_neg h, ih rest]
      have mem : i.filePath ∈ name :: names ↔ i.filePath ∈ names := by simp [Ne.symm h]
      simp only [mem]
      split
      · simp [Ne.symm h]
      · rfl

theorem byFile_eq (items : List Item) : byFile items = (paths items).map fun path => (path, ofPath path items) := by
  induction items using List.reverseRecOn with
  | nil => rfl
  | append_singleton items i ih =>
    rw [byFile_concat, ih, addToGroups_map (nodup_paths items), paths_concat]
    split
    case isTrue => simp only [ofPath_concat]
    case isFalse h =>
      have others : (paths items).map (fun path => (path, ofPath path (items ++ [i]))) =
          (paths items).map fun path => (path, ofPath path items) :=
        List.map_congr_left fun path hp => by rw [ofPath_concat, if_neg (ne_of_mem_of_not_mem hp h).symm]
      rw [List.map_append, others, List.map_singleton, ofPath_concat, if_pos rfl, ofPath_eq_nil h, List.nil_append]

theorem perm_addToGroups (i : Item) (groups : List (String × List Item)) :
    ((addToGroups i groups).flatMap (·.2)).Perm (groups.flatMap (·.2) ++ [i]) := by
  induction groups with
  | nil => exact List.Perm.refl _
  | cons first rest ih =>
    obtain ⟨path, group⟩ := first
    unfold addToGroups
    split
    · simp only [List.flatMap_cons, List.append_assoc]
      exact List.Perm.append_left group List.perm_append_comm
    · simp only [List.flatMap_cons, List.append_assoc]
      exact List.Perm.append_left group ih

theorem mem_byFile {g : String × List Item} (h : g ∈ byFile items) :
    g.2 ≠ [] ∧ ∀ i ∈ g.2, i ∈ items ∧ i.filePath = g.1 := by
  rw [byFile_eq] at h
  obtain ⟨path, hpath, rfl⟩ := List.mem_map.mp h
  have mem : ∀ i, i ∈ ofPath path items ↔ i ∈ items ∧ i.filePath = path := fun i => by simp [ofPath]
  obtain ⟨i, hi⟩ := mem_paths.mp hpath
  exact ⟨List.ne_nil_of_mem ((mem i).mpr hi), fun i hi => (mem i).mp hi⟩

theorem flatMap_byFile (items : List Item) :
    (byFile items).flatMap (·.2) = (paths items).flatMap fun path => ofPath path items := by
  rw [byFile_eq, List.flatMap_map]

/-- The groups have the items of the list, each as often as the list has it. -/
theorem perm_groups (items : List Item) : ((paths items).flatMap fun path => ofPath path items).Perm items := by
  rw [← flatMap_byFile]
  induction items using List.reverseRecOn with
  | nil => exact List.Perm.refl _
  | append_singleton items i ih =>
    rw [byFile_concat]
    exact (perm_addToGroups i _).trans (ih.append_right [i])

/-! ## Items that stand together -/

section
variable {block rest : List Item}

/-- The path of a block in front comes first, and the others as they come behind it. -/
theorem paths_append (hne : block ≠ []) (own : ∀ i ∈ block, i.filePath = path) (others : path ∉ paths rest) :
    paths (block ++ rest) = path :: paths rest := by
  cases block with
  | nil => exact absurd rfl hne
  | cons i block =>
    obtain rfl := own i List.mem_cons_self
    have again : (block.map (·.filePath)).filter (fun name => !name == i.filePath) = [] :=
      List.filter_eq_nil_iff.mpr fun name hname => by
        obtain ⟨j, hj, rfl⟩ := List.mem_map.mp hname
        simp [own j (List.mem_cons_of_mem _ hj)]
    have behind : (rest.map (·.filePath)).filter (fun name => !name == i.filePath) = rest.map (·.filePath) :=
      List.filter_eq_self.mpr fun name hname => by
        have : name ≠ i.filePath := ne_of_mem_of_not_mem (List.mem_eraseDups.mpr hname) others
        simpa using this
    rw [paths, List.cons_append, List.map_cons, List.eraseDups_cons, List.map_append, List.filter_append, again, behind]
    rfl

theorem ofPath_append_self (own : ∀ i ∈ block, i.filePath = path) (others : path ∉ paths rest) :
    ofPath path (block ++ rest) = block := by
  have all : ofPath path block = block := List.filter_eq_self.mpr fun i hi => by simpa using own i hi
  have none : ofPath path rest = [] := ofPath_eq_nil others
  rw [ofPath, List.filter_append, ← ofPath, ← ofPath, all, none, List.append_nil]

theorem ofPath_append_of_ne {other : String} (own : ∀ i ∈ block, i.filePath = path) (h : other ≠ path) :
    ofPath other (block ++ rest) = ofPath other rest := by
  have none : ofPath other block = [] := List.filter_eq_nil_iff.mpr fun i hi => by simpa [own i hi] using h.symm
  rw [ofPath, List.filter_append, ← ofPath, ← ofPath, none, List.nil_append]

end

/-- Blocks of items, each with a path of its own: the groups are the blocks that have items, in their order. -/
theorem flatMap_byFile_blocks {α : Type} {name : α → String} {block : α → List Item} {blocks : List α}
    (own : ∀ b ∈ blocks, ∀ i ∈ block b, i.filePath = name b) (apart : blocks.Pairwise fun a b => name a ≠ name b) :
    (byFile (blocks.flatMap block)).flatMap (·.2) = blocks.flatMap block := by
  rw [flatMap_byFile]
  induction blocks with
  | nil => rfl
  | cons b blocks ih =>
    obtain ⟨first, apart⟩ := List.pairwise_cons.mp apart
    have ownFirst := own b List.mem_cons_self
    have ih := ih (fun c hc => own c (List.mem_cons_of_mem _ hc)) apart
    have others : name b ∉ paths (blocks.flatMap block) := by
      intro hb
      obtain ⟨i, hi, hpath⟩ := mem_paths.mp hb
      obtain ⟨c, hc, hi⟩ := List.mem_flatMap.mp hi
      exact first c hc (hpath.symm.trans (own c (List.mem_cons_of_mem _ hc) i hi))
    rw [List.flatMap_cons]
    by_cases hne : block b = []
    · rw [hne, List.nil_append, ih]
    · rw [paths_append hne ownFirst others, List.flatMap_cons, ofPath_append_self ownFirst others]
      congr 1
      refine Eq.trans (List.flatMap_congr fun path hp => ?_) ih
      exact ofPath_append_of_ne ownFirst (ne_of_mem_of_not_mem hp others)

end MarkerScan.Item
