import MarkerScan.Proofs.Scan.Pool
import MarkerScan.Proofs.Tree.Walk
import MarkerScan.Scan.Scanner
/-
  MarkerScan.Proofs.Scan.Scanner — what a scan ends with.

  The workers of a scan read every file in one move that depends on the file alone, so
  what they end with is what one worker ends with that reads the files in the order of the
  walk (`scans_iff`), and their work comes to an end (`work_ends`).

  Proved, for proper trees and any files that have become unreadable since the walk:
  (1) A scan finds something exactly when a root is configured and is a directory; otherwise
      the root is unavailable (`root_eq_ok_iff`, `root_error`).
  (2) Every file of the walk is read unless it is gone (`itemsOf_readFile`), and each counts
      on its own (`collect_eq`).
  (3) Together: `scan_exact`.
-/

namespace MarkerScan.Scanner

/-! ## Many workers and one -/

section
variable {s : Scanner} {read : List Name → Except FileFault ByteArray} {limit : Nat} {files : List (List Name)}
  {counters : Counters} {p : Pool (List Name) (Except ScanError (Nat × List Item)) Counters}

/-- The file is still to be read, or gave what reading it gives. -/
def OfFile (s : Scanner) (read : List Name → Except FileFault ByteArray) (files : List (List Name)) (i : Nat)
    (x : List Name ⊕ Except ScanError (Nat × List Item)) : Prop :=
  ∃ below, files[i]? = some below ∧ (x = .inl below ∨ x = .inr (s.readFile read below))

theorem work_keeps : Pool.Keeps (s.work read) (fun _ => True) fun i x _ => OfFile s read files i x where
  enter h := h
  entered h := h
  beside _ _ _ h := h
  move := by
    rintro i t c - ⟨below, hi, h | h⟩
    · obtain rfl := Sum.inl.inj h
      exact ⟨trivial, t, hi, .inr rfl⟩
    · cases h

theorem results_of_done (h : Pool.Reach (s.work read) limit files counters p) (hd : p.Done) :
    p.results = files.map (s.readFile read) := by
  obtain ⟨-, length, kept⟩ := Pool.kept_of_done (@work_keeps s read files) trivial
    (fun i t hi => ⟨t, hi, .inl rfl⟩) h hd
  apply List.ext_getElem?
  intro i
  cases hr : p.results[i]? with
  | none =>
    have : p.results.length ≤ i := List.getElem?_eq_none_iff.mp hr
    rw [List.getElem?_eq_none (by simpa [← length] using this)]
  | some r =>
    obtain ⟨below, hi, h | h⟩ := kept i r hr
    · cases h
    · rw [List.getElem?_map, hi, Sum.inr.inj h]
      rfl

theorem work_shrinks : Pool.Shrinks (s.work read) fun _ => 1 := by
  refine ⟨fun t c t' c' h => ?_, fun _ _ _ _ _ => Nat.one_pos⟩
  cases h

/-- Workers that read files are done some time, whatever they do. -/
theorem work_ends :
    ¬ ∃ run : Nat → Pool (List Name) (Except ScanError (Nat × List Item)) Counters,
      ∀ n, Pool.Step (s.work read) limit (run n) (run (n + 1)) :=
  Pool.no_endless_run work_shrinks

end

/-- However many workers there are and in whatever order they are done, a scan ends with what one worker finds. -/
theorem scans_iff {s : Scanner} {fs : FileSystem} {read : List Name → Except FileFault ByteArray} {limit : Workers}
    {counters : Counters} {result : Except ScanError ScanOutput} :
    (∃ after, s.Scans fs read limit counters (result, after)) ↔ result = (s.scanReading fs read counters).1 := by
  cases hr : s.root fs with
  | error e =>
    have one : (s.scanReading fs read counters).1 = .error e := by rw [scanReading, hr]
    rw [one]
    constructor
    · rintro ⟨after, h⟩
      cases h with
      | unavailable he => rw [hr] at he; cases he; rfl
      | done hroot _ _ => rw [hr] at hroot; cases hroot
    · rintro rfl
      exact ⟨counters, .unavailable hr⟩
  | ok root =>
    have one : (s.scanReading fs read counters).1 =
        .ok (collect ((s.files fs root).map (s.readFile fun below => read (root ++ below)))) := by
      rw [scanReading, hr]
    rw [one]
    constructor
    · rintro ⟨after, h⟩
      cases h with
      | unavailable he => rw [hr] at he; cases he
      | done hroot hp hd =>
        rw [hr] at hroot
        obtain rfl := Except.ok.inj hroot
        rw [results_of_done hp hd]
    · rintro rfl
      obtain ⟨p, hp, hd⟩ := Pool.exists_done (work_shrinks (s := s)) limit.positive (.start (s.files fs root) counters)
      have hp := Pool.reach_of_steps .start hp
      rw [← results_of_done hp hd]
      exact ⟨p.shared, .done hr hp hd⟩

/-! ## The root -/

section
variable {s : Scanner} {fs : FileSystem}

theorem root_eq_ok_iff {root : List Name} :
    s.root fs = .ok root ↔ ∃ path entries, s.settings.rootPath = some path ∧ fs.resolve path.toList = .ok root ∧
      fs.top.node? root = some (.dir entries) := by
  unfold Scanner.root
  cases hp : s.settings.rootPath with
  | none => simp
  | some path =>
    cases hr : fs.resolve path.toList with
    | error fault => simp [hr]
    | ok place =>
      simp only [Option.some.injEq, exists_and_left, ↓existsAndEq, true_and, hr, Except.ok.injEq]
      constructor
      · intro h
        split at h
        · rename_i hdir
          obtain rfl := Except.ok.inj h
          obtain ⟨n, hn, hd⟩ := (Option.any_eq_true _ _).mp hdir
          cases n with
          | file => cases hd
          | link => cases hd
          | dir entries => exact ⟨rfl, entries, hn⟩
        · cases h
      · rintro ⟨rfl, entries, hn⟩
        rw [hn, Option.any_some, Node.isDir, if_pos rfl]

theorem root_error {e : ScanError} (h : s.root fs = .error e) : ∃ reason, e = .rootUnavailable reason := by
  unfold Scanner.root at h
  split at h
  · cases h; exact ⟨_, rfl⟩
  · split at h
    · cases h; exact ⟨_, rfl⟩
    · split at h
      · cases h
      · cases h; exact ⟨_, rfl⟩

end

/-! ## What the files give -/

/-- The output where each file was read and gave these items, or was not read. -/
def outputOf (each : List (Option (List Item))) : ScanOutput where
  items := each.flatMap (·.getD [])
  scanned := each.countP (·.isSome)
  failed := each.countP (·.isNone)
  withItems := each.countP (·.any (!·.isEmpty))

/-- Every file counts on its own. -/
theorem collect_eq (results : List (Except ScanError (Nat × List Item))) :
    collect results = outputOf (results.map itemsOf) := by
  have onto : ∀ o : ScanOutput, results.foldl (fun o r => o.add (itemsOf r)) o =
      { items := o.items ++ (outputOf (results.map itemsOf)).items
        scanned := o.scanned + (outputOf (results.map itemsOf)).scanned
        failed := o.failed + (outputOf (results.map itemsOf)).failed
        withItems := o.withItems + (outputOf (results.map itemsOf)).withItems } := by
    induction results with
    | nil => intro o; simp [outputOf]
    | cons r results ih =>
      intro o
      rw [List.foldl_cons, ih]
      cases hr : itemsOf r with
      | none => simp [ScanOutput.add, ScanOutput.addFailed, outputOf, hr]; omega
      | some items =>
        cases items with
        | nil => simp [ScanOutput.add, ScanOutput.addFile, outputOf, hr]; omega
        | cons i items => simp [ScanOutput.add, ScanOutput.addFile, outputOf, hr]; omega
  rw [collect, onto]
  simp [outputOf]

/-- The text of the file at a place of the walk, if it was read and decoded. -/
def textAt (mode : EncodingMode) (fs : FileSystem) (gone : List Name → Option FileFault) (root below : List Name) :
    Option (List Char) :=
  match gone (root ++ below), fs.top.node? (root ++ below) with
  | none, some (.file bytes) => (mode.decode (String.ofList (pathText below)) bytes).toOption
  | _, _ => none

theorem build_eq_ok [Marker.SizeLimit] [Glob.SizeLimit] {settings : Settings} {s : Scanner} (hb : build settings = .ok s) :
    s.settings = settings ∧ s.reader.mode = settings.encodingMode ∧
      Marker.Recogniser.build settings.activeKeywords = .ok s.reader.recogniser := by
  unfold build at hb
  cases hr : Marker.Recogniser.build settings.activeKeywords with
  | error e => rw [hr] at hb; cases hb
  | ok r =>
    rw [hr] at hb
    obtain rfl := Except.ok.inj hb
    exact ⟨rfl, rfl, rfl⟩

/-- A file of the tree gives the items of its text when it is not gone and can be decoded, and none otherwise. -/
theorem itemsOf_readFile {s : Scanner} {fs : FileSystem} (hfs : fs.Proper) (gone : List Name → Option FileFault)
    {root below : List Name} {bytes : ByteArray} (h : fs.top.node? (root ++ below) = some (.file bytes)) :
    itemsOf (s.readFile (fun below => fs.readUnless gone (root ++ below)) below) =
      (textAt s.reader.mode fs gone root below).map (s.reader.recogniser.items (String.ofList (pathText below))) := by
  simp only [textAt, h, readFile, FileReader.items, FileSystem.readUnless]
  cases gone (root ++ below) with
  | some fault => rfl
  | none =>
    simp only [FileSystem.read_placeText hfs h]
    cases s.reader.mode.decode (String.ofList (pathText below)) bytes with
    | error e => rfl
    | ok text => rfl

theorem mem_files {s : Scanner} {fs : FileSystem} (hfs : fs.Proper) {root : List Name} {entries : List (Name × Node)}
    (h : fs.top.node? root = some (.dir entries)) {below : List Name} (hb : below ∈ s.files fs root) :
    ∃ bytes, fs.top.node? (root ++ below) = some (.file bytes) := by
  rw [files, FileSystem.walkFrom_placeText hfs s.filter h] at hb
  obtain ⟨rest, bytes, rfl, hnode⟩ := Node.mem_wanted (Node.proper_of_node? hfs.names h).1 hb
  exact ⟨bytes, by rw [Node.node?_append, h]; exact hnode⟩

/-! ## The result of a scan -/

/-- A scan finds something exactly when a root is configured that leads to a directory. Then its output is made of
    the files of the walk in their order, each of which is read unless it is gone: the items of the text of each
    file that was read and decoded, and how many files these are and are not. However many workers there are, and in
    whatever order they are done, this is what the scan ends with. -/
theorem scan_exact [Marker.SizeLimit] [Glob.SizeLimit] {settings : Settings} {s : Scanner} (hb : build settings = .ok s)
    {fs : FileSystem} (hfs : fs.Proper) (gone : List Name → Option FileFault) (counters : Counters) :
    let result := (s.scanReading fs (fs.readUnless gone) counters).1
    (∀ limit ended, (∃ after, s.Scans fs (fs.readUnless gone) limit counters (ended, after)) ↔ ended = result) ∧
    (∀ path root entries, settings.rootPath = some path → fs.resolve path.toList = .ok root →
      fs.top.node? root = some (.dir entries) →
      (∀ below ∈ s.files fs root, ∃ bytes, fs.top.node? (root ++ below) = some (.file bytes)) ∧
      result = .ok (outputOf ((s.files fs root).map fun below =>
        (textAt settings.encodingMode fs gone root below).map
          (s.reader.recogniser.items (String.ofList (pathText below)))))) ∧
    ((¬ ∃ path root entries, settings.rootPath = some path ∧ fs.resolve path.toList = .ok root ∧
      fs.top.node? root = some (.dir entries)) → ∃ reason, result = .error (.rootUnavailable reason)) := by
  obtain ⟨rfl, hmode, -⟩ := build_eq_ok hb
  refine ⟨fun limit ended => scans_iff, ?_, ?_⟩
  · intro path root entries hpath hroot hdir
    have found : s.root fs = .ok root := root_eq_ok_iff.mpr ⟨path, entries, hpath, hroot, hdir⟩
    refine ⟨fun below hbelow => mem_files hfs hdir hbelow, ?_⟩
    rw [scanReading, found]
    simp only [collect_eq, List.map_map, ← hmode]
    congr 2
    apply List.map_congr_left
    intro below hbelow
    obtain ⟨bytes, hbytes⟩ := mem_files hfs hdir hbelow
    exact itemsOf_readFile hfs gone hbytes
  · intro none
    cases hr : s.root fs with
    | ok root =>
      obtain ⟨path, entries, h⟩ := root_eq_ok_iff.mp hr
      exact absurd ⟨path, root, entries, h⟩ none
    | error e =>
      obtain ⟨reason, rfl⟩ := root_error hr
      exact ⟨reason, by rw [scanReading, hr]⟩

/-- A directory with two files that hold a marker each. -/
def twoFiles : FileSystem :=
  ⟨.dir [("w".toList, .dir [("a.rs".toList, .file "// TODO: kept".toUTF8), ("b.rs".toList, .file "# BUG: lost".toUTF8)])],
    []⟩

/-- The second of two files is gone when its turn comes: it counts as failed, and the first gives its item. -/
theorem scan_exact_second_file_gone :
    ∃ s, build (.forRoot "/w") = .ok s ∧
      (s.scanReading twoFiles
          (twoFiles.readUnless fun place => if place = ["w".toList, "b.rs".toList] then some .notFound else none) {}).1 =
        .ok { items := [⟨"a.rs", 1, "[TODO] kept", none, none, none⟩], scanned := 1, failed := 1, withItems := 1 } := by
  have hr : Marker.Recogniser.build (Settings.forRoot "/w").activeKeywords =
      .ok ⟨["TODO".toList, "FIXME".toList, "HACK".toList, "NOTE".toList, "BUG".toList]⟩ := by decide +kernel
  have hb : build (.forRoot "/w") = .ok
      ⟨.forRoot "/w", .build (Settings.defaultFolders.map String.toList) (Settings.defaultPatterns.map String.toList)
        (Settings.defaultExtensions.map String.toList),
        ⟨⟨["TODO".toList, "FIXME".toList, "HACK".toList, "NOTE".toList, "BUG".toList]⟩, .lossy⟩⟩ := by
    rw [build, hr]
    rfl
  have hfs : twoFiles.Proper := ⟨rfl, by decide +kernel⟩
  have hroot : twoFiles.resolve "/w".toList = .ok ["w".toList] := by decide +kernel
  have hdir : twoFiles.top.node? ["w".toList] = some (.dir [("a.rs".toList, .file "// TODO: kept".toUTF8),
      ("b.rs".toList, .file "# BUG: lost".toUTF8)]) := rfl
  obtain ⟨-, found, -⟩ := scan_exact hb hfs
    (fun place => if place = ["w".toList, "b.rs".toList] then some .notFound else none) {}
  refine ⟨_, hb, (found "/w" ["w".toList] _ rfl hroot hdir).2.trans ?_⟩
  rw [files, FileSystem.walkFrom_placeText hfs _ hdir, Node.wanted_dir, List.mergeSort_of_pairwise]
  · decide +kernel
  · decide +kernel

end MarkerScan.Scanner
