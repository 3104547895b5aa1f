import Mathlib.Logic.ExistsUnique
import MarkerScan.Proofs.Item.Grouping
import MarkerScan.Proofs.Scan.Order
/-
  MarkerScan.Proofs.Scan.Groups — the items of a scan by file.

  The files of a walk have different paths, and what a scan finds is what each of them gives,
  one file behind the other (`items_by_file`). So the items of a path stand together, and to
  group them moves none (`flatMap_byFile_of_scans`).

  Proved, for any list of items and for the items of any scan of a proper tree:
  `byFile_partition`.
-/

namespace MarkerScan.Scanner

open Item

variable {s : Scanner} {fs : FileSystem} {gone : List Name → Option FileFault} {limit : Workers}
  {counters after : Counters} {o : ScanOutput}

/-- What a scan finds comes file by file, each with items under its own path, and no two with the same. -/
theorem items_by_file (hfs : fs.Proper) (h : s.Scans fs (fs.readUnless gone) limit counters (.ok o, after)) :
    ∃ (files : List (List Name)) (give : List Name → List Item), o.items = files.flatMap give ∧
      (∀ below ∈ files, ∀ i ∈ give below, i.filePath = String.ofList (pathText below)) ∧
      files.Pairwise fun a b => String.ofList (pathText a) ≠ String.ofList (pathText b) := by
  have ended := scans_iff.mp ⟨after, h⟩
  unfold scanReading at ended
  cases hroot : s.root fs with
  | error e => rw [hroot] at ended; cases ended
  | ok root =>
    rw [hroot] at ended
    obtain rfl := Except.ok.inj ended
    obtain ⟨path, entries, -, -, hdir⟩ := root_eq_ok_iff.mp hroot
    let read := fun below => fs.readUnless gone (root ++ below)
    have given : (collect ((s.files fs root).map (s.readFile read))).items =
        (s.files fs root).flatMap fun below => (itemsOf (s.readFile read below)).getD [] := by
      rw [items_collect, List.flatMap_map]
    exact ⟨_, _, given, fun below _ i hi => filePath_of_file hi, paths_apart hfs hdir⟩

theorem flatMap_byFile_of_scans (hfs : fs.Proper)
    (h : s.Scans fs (fs.readUnless gone) limit counters (.ok o, after)) :
    (byFile o.items).flatMap (·.2) = o.items := by
  obtain ⟨files, give, hitems, own, apart⟩ := items_by_file hfs h
  rw [hitems]
  exact flatMap_byFile_blocks own apart

/-- To group items by file is to part them: there is one group for each path that the items have, in the order in which
    the paths first appear, and it is made of all items of its path in the order they had. So no group is empty, each
    item is in one and no other, and together the groups have the items of the list. Where the items are those of a
    scan, whatever files were gone and however many workers there were, the groups one behind the other are the list
    itself. -/
theorem byFile_partition (items : List Item) :
    let groups := byFile items
    ((groups.map (·.1)).Nodup ∧
      (groups.map (·.1)).Pairwise fun a b => firstAt a items < firstAt b items) ∧
    (∀ path, path ∈ groups.map (·.1) ↔ ∃ i ∈ items, i.filePath = path) ∧
    (∀ path group, (path, group) ∈ groups → group = items.filter (·.filePath = path) ∧ group ≠ []) ∧
    (∀ i ∈ items, ∃! g, g ∈ groups ∧ i ∈ g.2) ∧
    (groups.flatMap (·.2)).Perm items ∧
    ∀ (s : Scanner) (fs : FileSystem) (gone : List Name → Option FileFault) (limit : Workers)
      (counters after : Counters) (o : ScanOutput), fs.Proper →
      s.Scans fs (fs.readUnless gone) limit counters (.ok o, after) → o.items = items →
      groups.flatMap (·.2) = items := by
  intro groups
  have names : groups.map (·.1) = paths items := by
    simp only [groups, byFile_eq, List.map_map, Function.comp_def, List.map_id']
  have group : ∀ {g}, g ∈ groups ↔ g.1 ∈ paths items ∧ g.2 = ofPath g.1 items := by
    rintro ⟨path, own⟩
    simp only [groups, byFile_eq, List.mem_map, Prod.mk.injEq]
    constructor
    · rintro ⟨_, hp, rfl, rfl⟩
      exact ⟨hp, rfl⟩
    · rintro ⟨hp, rfl⟩
      exact ⟨path, hp, rfl, rfl⟩
  refine ⟨⟨?_, ?_⟩, fun path => ?_, fun path own hg => ⟨(group.mp hg).2, (mem_byFile hg).1⟩, fun i hi => ?_, ?_, ?_⟩
  · rw [names]
    exact nodup_paths items
  · rw [names]
    exact paths_inOrder items
  · rw [names]
    exact mem_paths
  · refine ⟨(i.filePath, ofPath i.filePath items), ⟨group.mpr ⟨mem_paths.mpr ⟨i, hi, rfl⟩, rfl⟩, ?_⟩, ?_⟩
    · exact List.mem_filter.mpr ⟨hi, by simp⟩
    · rintro g ⟨hg, hig⟩
      have path : i.filePath = g.1 := ((mem_byFile hg).2 i hig).2
      exact Prod.ext path.symm (by rw [path]; exact (group.mp hg).2)
  · rw [flatMap_byFile]
    exact perm_groups items
  · rintro s fs gone limit counters after o hfs h rfl
    exact flatMap_byFile_of_scans hfs h

/-- Items of one path with others between them come together. -/
example : let item path line : Item := ⟨path, line, "[TODO] x", none, none, none⟩
    byFile [item "b.rs" 1, item "a.rs" 1, item "b.rs" 4] =
      [("b.rs", [item "b.rs" 1, item "b.rs" 4]), ("a.rs", [item "a.rs" 1])] := by decide

end MarkerScan.Scanner
