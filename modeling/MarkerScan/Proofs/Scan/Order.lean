import MarkerScan.Proofs.Scan.Locality
import MarkerScan.Proofs.Scan.Scanner
import MarkerScan.Proofs.Tree.Listing
import MarkerScan.Proofs.Tree.Relative
/-
  MarkerScan.Proofs.Scan.Order — the items of a scan, told apart and put in order.

  An item is known by its path and its line (`Item.key`): a line holds one item at most, and
  no two files below the root of a scan have the same path. So the order by path and line
  is strict on the items of a scan (`strictly_sorted`), and there is one list only that has
  these items in this order, whichever file was done first (`sorted_eq_of_perm`).

  Proved, for proper trees and any files that have become unreadable since the walk:
  `scan_sorted_canonical`.
-/

namespace MarkerScan

namespace Item

/-- Where an item stands. -/
def key (i : Item) : String × Nat := (i.filePath, i.line)

/-- The path of `a` comes first in the order of bytes, or it is that of `b` and the line of `a` comes first. -/
def Above (a b : Item) : Prop :=
  List.Lex (· < ·) (Text.utf8 a.filePath.toList) (Text.utf8 b.filePath.toList) ∨
    a.filePath = b.filePath ∧ a.line < b.line

theorem before_iff {a b : Item} :
    before a b = true ↔ a.filePath < b.filePath ∨ a.filePath = b.filePath ∧ a.line ≤ b.line := by
  unfold before
  split
  · simp [*]
  · split
    · simp [*]
    · simp [*]

theorem before_total (a b : Item) : (before a b || before b a) = true := by
  rw [Bool.or_eq_true, before_iff, before_iff]
  by_cases hab : a.filePath < b.filePath
  · exact .inl (.inl hab)
  by_cases hba : b.filePath < a.filePath
  · exact .inr (.inl hba)
  have same : a.filePath = b.filePath := String.le_antisymm (String.not_lt.mp hba) (String.not_lt.mp hab)
  rcases Nat.le_total a.line b.line with h | h
  · exact .inl (.inr ⟨same, h⟩)
  · exact .inr (.inr ⟨same.symm, h⟩)

theorem before_trans {a b c : Item} (hab : before a b = true) (hbc : before b c = true) : before a c = true := by
  rw [before_iff] at *
  rcases hab with hab | ⟨ab, hab⟩
  · rcases hbc with hbc | ⟨bc, -⟩
    · exact .inl (String.lt_trans hab hbc)
    · exact .inl (bc ▸ hab)
  · rcases hbc with hbc | ⟨bc, hbc⟩
    · exact .inl (ab ▸ hbc)
    · exact .inr ⟨ab.trans bc, Nat.le_trans hab hbc⟩

theorem lex_path_irrefl (path : List Char) : ¬ List.Lex (· < ·) (Text.utf8 path) (Text.utf8 path) :=
  List.lex_irrefl (fun b => Nat.lt_irrefl b.toNat) _

theorem above_asymm {a b : Item} (hab : Above a b) (hba : Above b a) : False := by
  rcases hab with hab | ⟨same, hab⟩
  · rcases hba with hba | ⟨same, -⟩
    · exact lex_path_irrefl _ (List.lex_trans (fun h h' => UInt8.lt_trans h h') hab hba)
    · rw [same] at hab
      exact lex_path_irrefl _ hab
  · rcases hba with hba | ⟨-, hba⟩
    · rw [same] at hba
      exact lex_path_irrefl _ hba
    · omega

theorem above_of_before {a b : Item} (h : before a b = true) (hne : a.key ≠ b.key) : Above a b := by
  rcases before_iff.mp h with h | ⟨same, h⟩
  · exact .inl (Text.lex_utf8 h)
  · refine .inr ⟨same, Nat.lt_of_le_of_ne h fun e => hne ?_⟩
    exact Prod.ext same e

theorem sorted_perm (items : List Item) : (sorted items).Perm items := List.mergeSort_perm items before

theorem strictly_sorted {items : List Item} (h : (items.map key).Nodup) : (sorted items).Pairwise Above := by
  have apart : (sorted items).Pairwise fun a b => a.key ≠ b.key :=
    List.pairwise_map.mp (((sorted_perm items).map key).nodup_iff.mpr h)
  have ordered : (sorted items).Pairwise fun a b => before a b = true :=
    @List.pairwise_mergeSort _ before (fun _ _ _ => before_trans) before_total items
  exact (ordered.and apart).imp fun h => above_of_before h.1 h.2

/-- Items that are told apart have one order, whatever order they come in. -/
theorem sorted_eq_of_perm {items items' : List Item} (h : (items.map key).Nodup) (hp : items'.Perm items) :
    sorted items' = sorted items := by
  have h' : (items'.map key).Nodup := (hp.map key).nodup_iff.mpr h
  have perm : (sorted items').Perm (sorted items) := (sorted_perm items').trans (hp.trans (sorted_perm items).symm)
  exact perm.eq_of_pairwise (fun a b _ _ hab hba => (above_asymm hab hba).elim) (strictly_sorted h') (strictly_sorted h)

end Item

/-! ## The items of one file -/

namespace Marker.Recogniser

variable {r : Recogniser} {path : String} {text : List Char}

theorem filePath_of_mem_items {i : Item} (h : i ∈ r.items path text) : i.filePath = path := by
  obtain ⟨⟨l, m⟩, -, hi⟩ := List.mem_filterMap.mp h
  obtain ⟨found, -, rfl⟩ := Option.map_eq_some_iff.mp hi
  rfl

/-- The items stand on lines that go down the file. -/
theorem itemsFrom_pairwise (n : Nat) (ls : List (List Char)) :
    (r.itemsFrom path n ls).Pairwise fun a b => a.line < b.line := by
  induction ls generalizing n with
  | nil => exact .nil
  | cons l ls ih =>
    have rest := ih (n + 1)
    have below : ∀ i ∈ r.itemsFrom path (n + 1) ls, n < i.line := fun i hi => (line_of_mem_itemsFrom hi).1
    simp only [itemsFrom, List.zipIdx_cons, List.filterMap_cons] at rest below ⊢
    cases r.line? l with
    | none => exact rest
    | some found => exact List.pairwise_cons.mpr ⟨below, rest⟩

theorem items_pairwise : (r.items path text).Pairwise fun a b => a.line < b.line := itemsFrom_pairwise 1 _

end Marker.Recogniser

namespace Scanner

/-! ## The items of the files of a walk -/

variable {s : Scanner} {read : List Name → Except FileFault ByteArray} {fs : FileSystem} {root : List Name}

/-- A file gives the items of some text under its path, if any. -/
theorem items_of_file (below : List Name) : itemsOf (s.readFile read below) = none ∨
    ∃ text, itemsOf (s.readFile read below) =
      some (s.reader.recogniser.items (String.ofList (pathText below)) text) := by
  unfold readFile FileReader.items
  split
  · exact .inl rfl
  · rename_i bytes _
    simp only
    cases s.reader.mode.decode (String.ofList (pathText below)) bytes with
    | error e => exact .inl rfl
    | ok text => exact .inr ⟨text, rfl⟩

theorem filePath_of_file {below : List Name} {i : Item} (h : i ∈ (itemsOf (s.readFile read below)).getD []) :
    i.filePath = String.ofList (pathText below) := by
  rcases @items_of_file s read below with hr | ⟨text, hr⟩
  · rw [hr] at h
    cases h
  · rw [hr] at h
    exact Marker.Recogniser.filePath_of_mem_items h

theorem items_collect (results : List (Except ScanError (Nat × List Item))) :
    (collect results).items = results.flatMap fun r => (itemsOf r).getD [] := by
  simp only [collect_eq, outputOf, List.flatMap_map]

/-- Files with different paths give items that are told apart. -/
theorem keys_nodup {files : List (List Name)}
    (hd : files.Pairwise fun a b => String.ofList (pathText a) ≠ String.ofList (pathText b)) :
    ((collect (files.map (s.readFile read))).items.map Item.key).Nodup := by
  rw [items_collect, List.flatMap_map]
  refine List.pairwise_map.mpr (List.pairwise_flatMap.mpr ⟨fun below _ => ?_, hd.imp fun hne x hx y hy he => ?_⟩)
  · rcases @items_of_file s read below with hr | ⟨text, hr⟩
    · rw [hr]
      exact .nil
    · rw [hr]
      exact Marker.Recogniser.items_pairwise.imp fun hlt he => absurd (Prod.mk.inj he).2 (Nat.ne_of_lt hlt)
  · rw [← filePath_of_file hx, ← filePath_of_file hy] at hne
    exact hne (Prod.mk.inj he).1

/-! ## The files below a root -/

section
variable {entries : List (Name × Node)}

/-- The files below a directory are told apart by their paths, each of which leads to its file from the directory. -/
theorem file_of_path (hfs : fs.Proper) (hdir : fs.top.node? root = some (.dir entries))
    {below : List Name} {bytes : ByteArray} (h : fs.top.node? (root ++ below) = some (.file bytes)) :
    Path.relative (FileSystem.placeText root) (FileSystem.placeText (root ++ below)) = pathText below ∧
      (∀ base, fs.resolve base = .ok root → fs.resolve (Path.joined base (pathText below)) = .ok (root ++ below)) ∧
      ∀ other bytes', fs.top.node? (root ++ other) = some (.file bytes') → pathText other = pathText below →
        other = below := by
  have named : ∀ {place bytes}, fs.top.node? (root ++ place) = some (.file bytes) →
      place ≠ [] ∧ ∀ name ∈ place, properName name = true := by
    intro place bytes hplace
    refine ⟨?_, fun name hm => (Node.proper_of_node? hfs.names hplace).2 name (List.mem_append_right _ hm)⟩
    rintro rfl
    rw [List.append_nil, hdir] at hplace
    cases hplace
  obtain ⟨hne, hnames⟩ := named h
  refine ⟨Path.relative_placeText (Node.proper_of_node? hfs.names h).2, fun base hbase => ?_, ?_⟩
  · exact FileSystem.resolve_joined hfs hbase h (by simp) hne
  · intro other bytes' hother hsame
    exact pathText_inj (named hother).2 hnames (named hother).1 hne hsame

/-- The files of a walk have different paths. -/
theorem paths_apart (hfs : fs.Proper) (hdir : fs.top.node? root = some (.dir entries)) :
    (s.files fs root).Pairwise fun a b => String.ofList (pathText a) ≠ String.ofList (pathText b) := by
  have sorted : (s.files fs root).Pairwise Precedes := by
    rw [files, FileSystem.walkFrom_placeText hfs s.filter hdir]
    exact Node.wanted_pairwise (Node.proper_of_node? hfs.names hdir).1 []
  -- Two files with one path are one file, and no file comes before itself.
  refine sorted.imp_of_mem fun {a b} ha hb hab he => ?_
  obtain ⟨_, ha⟩ := mem_files hfs hdir ha
  obtain ⟨_, hb⟩ := mem_files hfs hdir hb
  obtain rfl := (file_of_path hfs hdir hb).2.2 a _ ha (String.ofList_injective he)
  exact precedes_irrefl a hab

end

/-- The items of a scan stand on different lines, and the path of each is that of its file from the root of the scan:
    it leads from there to the file, and to no other one. So in the order of their paths, byte by byte, and of their
    lines each comes strictly before the next, and whichever file was done first, this order is the same. -/
theorem scan_sorted_canonical (hfs : fs.Proper) {gone : List Name → Option FileFault} {limit : Workers}
    {counters after : Counters} {o : ScanOutput}
    (h : s.Scans fs (fs.readUnless gone) limit counters (.ok o, after)) :
    ∃ path root, s.settings.rootPath = some path ∧ fs.resolve path.toList = .ok root ∧
      (∀ i ∈ o.items, ∃ below bytes, fs.top.node? (root ++ below) = some (.file bytes) ∧
        i.filePath = String.ofList (pathText below)) ∧
      (∀ below bytes, fs.top.node? (root ++ below) = some (.file bytes) →
        Path.relative (FileSystem.placeText root) (FileSystem.placeText (root ++ below)) = pathText below ∧
        (∀ base, fs.resolve base = .ok root → fs.resolve (Path.joined base (pathText below)) = .ok (root ++ below)) ∧
        ∀ other bytes', fs.top.node? (root ++ other) = some (.file bytes') → pathText other = pathText below →
          other = below) ∧
      (o.items.map Item.key).Nodup ∧
      o.sorted.Perm o.items ∧ o.sorted.Pairwise Item.Above ∧
      let results := (s.files fs root).map (s.readFile fun below => fs.readUnless gone (root ++ below))
      o = collect results ∧ ∀ shuffled, shuffled.Perm results → (collect shuffled).sorted = o.sorted := by
  have ended := scans_iff.mp ⟨after, h⟩
  unfold scanReading at ended
  split at ended
  · cases ended
  · rename_i root hroot
    obtain rfl := Except.ok.inj ended
    obtain ⟨path, entries, hpath, hresolve, hdir⟩ := root_eq_ok_iff.mp hroot
    have apart : (s.files fs root).Pairwise _ := paths_apart hfs hdir
    have keys := @keys_nodup s (fun below => fs.readUnless gone (root ++ below)) _ apart
    refine ⟨path, root, hpath, hresolve, ?_, fun below bytes => file_of_path hfs hdir, keys, Item.sorted_perm _,
      Item.strictly_sorted keys, rfl, ?_⟩
    · intro i hi
      rw [items_collect, List.flatMap_map] at hi
      obtain ⟨below, hbelow, hi⟩ := List.mem_flatMap.mp hi
      obtain ⟨bytes, hfile⟩ := mem_files hfs hdir hbelow
      exact ⟨below, bytes, hfile, filePath_of_file hi⟩
    · intro shuffled hs
      refine Item.sorted_eq_of_perm keys ?_
      rw [items_collect, items_collect]
      exact hs.flatMap_right _

/-- A directory `a` with a file, and beside it a file `a-b.rs` with two markers. -/
def besideTree : FileSystem :=
  ⟨.dir [("w".toList, .dir [("a".toList, .dir [("x.rs".toList, .file "// TODO: one".toUTF8)]),
    ("a-b.rs".toList, .file "# BUG: two\n\n# NOTE: three".toUTF8)])], []⟩

/-- The walk is first in the directory, and the order of the paths has the file beside it first. -/
theorem scan_sorted_canonical_beside_tree :
    let s : Scanner :=
      ⟨.forRoot "/w", .build [] [] ["rs".toList], ⟨⟨["TODO".toList, "BUG".toList, "NOTE".toList]⟩, .lossy⟩⟩
    let one : Item := ⟨"a/x.rs", 1, "[TODO] one", none, none, none⟩
    let two : Item := ⟨"a-b.rs", 1, "[BUG] two", none, none, none⟩
    let three : Item := ⟨"a-b.rs", 3, "[NOTE] three", none, none, none⟩
    ∃ o after, s.Scans besideTree (besideTree.readUnless fun _ => none) .forScan {} (.ok o, after) ∧
      o.items = [one, two, three] ∧ o.sorted = [two, three, one] ∧ o.sorted.Pairwise Item.Above := by
  intro s one two three
  have hfs : besideTree.Proper := ⟨rfl, by decide +kernel⟩
  have hdir : besideTree.top.node? ["w".toList] = some (.dir [("a".toList, .dir [("x.rs".toList,
      .file "// TODO: one".toUTF8)]), ("a-b.rs".toList, .file "# BUG: two\n\n# NOTE: three".toUTF8)]) := rfl
  have hroot : s.root besideTree = .ok ["w".toList] := by decide +kernel
  have hfiles : s.files besideTree ["w".toList] = [["a".toList, "x.rs".toList], ["a-b.rs".toList]] := by
    have inner : Node.listed s.filter [] ("a".toList, .dir [("x.rs".toList, .file "// TODO: one".toUTF8)]) =
        [["a".toList, "x.rs".toList]] := by
      rw [Node.listed, if_neg (by decide +kernel), Node.wanted_dir, List.mergeSort_of_pairwise]
      · decide +kernel
      · decide +kernel
    rw [files, FileSystem.walkFrom_placeText hfs _ hdir, Node.wanted_dir, List.map_cons, inner,
      List.mergeSort_of_pairwise]
    · decide +kernel
    · decide +kernel
  let o := collect ((s.files besideTree ["w".toList]).map
    (s.readFile fun below => besideTree.readUnless (fun _ => none) ("w".toList :: below)))
  have hitems : o.items = [one, two, three] := by
    show (collect (List.map _ (s.files besideTree ["w".toList]))).items = _
    rw [hfiles]
    decide +kernel
  have found : .ok o = (s.scanReading besideTree (besideTree.readUnless fun _ => none) {}).1 := by
    rw [scanReading, hroot]
    rfl
  obtain ⟨after, hscan⟩ : ∃ after, s.Scans besideTree _ .forScan {} (.ok o, after) := scans_iff.mpr found
  obtain ⟨path, root, -, -, -, -, keys, -, ordered, -⟩ := scan_sorted_canonical hfs hscan
  refine ⟨o, after, hscan, hitems, ?_, ordered⟩
  have moved : [two, three, one].Perm o.items := by
    rw [hitems]
    exact @List.perm_append_comm _ [two, three] [one]
  rw [ScanOutput.sorted, ← Item.sorted_eq_of_perm keys moved]
  exact List.mergeSort_of_pairwise (by decide +kernel)

end Scanner

end MarkerScan
