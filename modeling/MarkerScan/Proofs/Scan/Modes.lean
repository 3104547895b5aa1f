import Mathlib.Data.List.Nodup
import MarkerScan.Proofs.Scan.Order
import MarkerScan.Proofs.Text.Encoded
/-
  MarkerScan.Proofs.Scan.Modes — the two ways to treat bytes that are not UTF-8.

  A file whose bytes are valid UTF-8 gives the same items either way; any other file that
  can be read gives those of its text with substitutes when the mode is lossy, and fails
  when the mode is to fail fast (`itemsOf_failFast`). The walk does not depend on the mode,
  and every file counts on its own, so what the one kind of scan makes of the files is told
  by what the other one makes of them (`outputs_agree`).

  Proved, over every two scans of one tree in the two modes: `modes_agree`.
-/

namespace MarkerScan

namespace Scanner

variable {s : Scanner} {read : List Name → Except FileFault ByteArray}

/-- The same scanner with another mode. -/
def withMode (s : Scanner) (mode : EncodingMode) : Scanner :=
  { s with
    settings := { s.settings with encodingMode := mode }
    reader := { s.reader with mode := mode } }

/-- The mode is no reason for settings to be refused. -/
theorem build_withMode [Marker.SizeLimit] [Glob.SizeLimit] {settings : Settings} (hb : build settings = .ok s)
    (mode : EncodingMode) :
    build { settings with encodingMode := mode } = .ok (s.withMode mode) := by
  unfold build at hb ⊢
  have same : ({ settings with encodingMode := mode } : Settings).activeKeywords = settings.activeKeywords := rfl
  rw [same]
  cases hr : Marker.Recogniser.build settings.activeKeywords with
  | error e => rw [hr] at hb; cases hb
  | ok r =>
    rw [hr] at hb
    obtain rfl := Except.ok.inj hb
    rfl

/-! ## One file -/

/-- What is read is valid UTF-8. -/
def encoded : Except FileFault ByteArray → Bool
  | .ok bytes => bytes.IsValidUTF8
  | .error _ => false

/-- What is read is not. -/
def malformed : Except FileFault ByteArray → Bool
  | .ok bytes => ¬ bytes.IsValidUTF8
  | .error _ => false

/-- What can be read is one or the other. -/
theorem malformed_eq (r : Except FileFault ByteArray) : malformed r = (r.toOption.isSome && !encoded r) := by
  cases r with
  | error fault => rfl
  | ok bytes => exact decide_not

theorem itemsOf_failFast (below : List Name) :
    itemsOf ((s.withMode .failFast).readFile read below) =
      if encoded (read below) then itemsOf ((s.withMode .lossy).readFile read below) else none := by
  simp only [readFile, FileReader.items, withMode]
  cases read below with
  | error fault => rfl
  | ok bytes =>
    by_cases hv : bytes.IsValidUTF8
    · simp only [encoded, hv, decide_true, if_true, EncodingMode.decode, Text.Utf8.decodeStrict_of_valid hv]
      rfl
    · obtain ⟨fault, hf⟩ := Text.Utf8.decodeStrict_of_invalid hv
      simp only [encoded, hv, EncodingMode.decode, hf]
      rfl

/-- A lossy scan fails no file that can be read. -/
theorem itemsOf_lossy (below : List Name) :
    (itemsOf ((s.withMode .lossy).readFile read below)).isSome = (read below).toOption.isSome := by
  simp only [readFile, FileReader.items, withMode]
  cases read below with
  | error fault => rfl
  | ok bytes => rfl

/-! ## All files -/

section
variable {files : List (List Name)} {each : List Name → Option (List Item)} {kept : List Name → Bool}

/-- The files that are not kept move from the one count to the other. -/
theorem counts_filter (files : List (List Name)) (each : List Name → Option (List Item)) (kept : List Name → Bool) :
    let all := outputOf (files.map each)
    let some := outputOf (files.map fun x => if kept x then each x else none)
    let lost := files.countP fun x => (each x).isSome && !kept x
    some.failed = all.failed + lost ∧ some.scanned + lost = all.scanned := by
  simp only [outputOf, List.countP_map, Function.comp_def]
  induction files with
  | nil => exact ⟨rfl, rfl⟩
  | cons x files ih =>
    simp only [List.countP_cons]
    cases each x with
    | none => cases kept x <;> simp <;> omega
    | some items => cases kept x <;> simp <;> omega

theorem items_filter {P : Item → Bool} (hP : ∀ x ∈ files, ∀ i ∈ (each x).getD [], P i = kept x) :
    (outputOf (files.map fun x => if kept x then each x else none)).items =
      (outputOf (files.map each)).items.filter P := by
  simp only [outputOf, List.flatMap_map, List.filter_flatMap]
  refine List.flatMap_congr fun x hx => ?_
  cases hk : kept x with
  | true =>
    rw [if_pos rfl]
    exact (List.filter_eq_self.mpr fun i hi => (hP x hx i hi).trans hk).symm
  | false =>
    rw [if_neg Bool.false_ne_true]
    exact (List.filter_eq_nil_iff.mpr fun i hi => by simp [hP x hx i hi, hk]).symm

end

/-! ## Two scans -/

section
variable {fs : FileSystem} {limit : Workers} {counters after : Counters} {result : Except ScanError ScanOutput}

/-- What a scan ends with, by its files. -/
theorem ended_of_scans (h : s.Scans fs read limit counters (result, after)) :
    (∃ e, s.root fs = .error e ∧ result = .error e) ∨ ∃ root, s.root fs = .ok root ∧
      result = .ok (outputOf ((s.files fs root).map fun below =>
        itemsOf (s.readFile (fun below => read (root ++ below)) below))) := by
  cases h with
  | unavailable he => exact .inl ⟨_, he, rfl⟩
  | done hroot hp hd =>
    refine .inr ⟨_, hroot, ?_⟩
    rw [results_of_done hp hd, collect_eq, List.map_map]
    rfl

/-- The path of a file of the walk leads to no other one. -/
theorem any_path_eq (hfs : fs.Proper) {root : List Name} (hroot : s.root fs = .ok root) {below : List Name}
    (hb : below ∈ s.files fs root) (P : List Name → Bool) :
    ((s.files fs root).any fun other => String.ofList (pathText other) = String.ofList (pathText below) && P other) =
      P below := by
  obtain ⟨path, entries, -, -, hdir⟩ := root_eq_ok_iff.mp hroot
  have apart : ((s.files fs root).map fun below => String.ofList (pathText below)).Nodup :=
    List.pairwise_map.mpr (paths_apart hfs hdir)
  rw [Bool.eq_iff_iff, List.any_eq_true]
  constructor
  · rintro ⟨other, ho, h⟩
    obtain ⟨same, hP⟩ := Bool.and_eq_true_iff.mp h
    rwa [← List.inj_on_of_nodup_map apart ho hb (of_decide_eq_true same)]
  · exact fun hP => ⟨below, hb, by simp [hP]⟩

end

/-- What the lossy scan and the one that fails fast make of the same files. -/
theorem outputs_agree {fs : FileSystem} (hfs : fs.Proper) {root : List Name} (hroot : s.root fs = .ok root) :
    let files := s.files fs root
    let output := fun mode => outputOf (files.map fun below =>
      itemsOf ((s.withMode mode).readFile (fun below => read (root ++ below)) below))
    let bad := files.countP fun below => malformed (read (root ++ below))
    ((output .failFast).items = (output .lossy).items.filter fun i => files.any fun below =>
      String.ofList (pathText below) = i.filePath && encoded (read (root ++ below))) ∧
    (output .failFast).failed = (output .lossy).failed + bad ∧
    (output .failFast).scanned + bad = (output .lossy).scanned ∧
    (output .lossy).failed = files.countP fun below => (read (root ++ below)).toOption.isNone := by
  intro files output bad
  let each := fun below => itemsOf ((s.withMode .lossy).readFile (fun below => read (root ++ below)) below)
  let kept := fun below => encoded (read (root ++ below))
  have strict : output .failFast = outputOf (files.map fun below => if kept below then each below else none) := by
    simp only [output, itemsOf_failFast]
    rfl
  have lost : files.countP (fun below => (each below).isSome && !kept below) = bad := by
    refine List.countP_congr fun below _ => ?_
    rw [itemsOf_lossy, ← malformed_eq]
  obtain ⟨failed, scanned⟩ := counts_filter files each kept
  rw [lost, ← strict] at failed scanned
  refine ⟨?_, failed, scanned, ?_⟩
  · rw [strict]
    refine items_filter fun below hb i hi => ?_
    rw [filePath_of_file hi]
    exact any_path_eq hfs hroot hb kept
  · simp only [output, outputOf, List.countP_map]
    refine List.countP_congr fun below _ => ?_
    rw [Function.comp, ← Option.not_isSome, itemsOf_lossy, Option.not_isSome]

/-- Two scans of one tree, whose files give the same at both, in the two modes. Without a root both fail in the same
    way. With one, the items of the scan that fails fast are those of the lossy scan that come from files that are valid
    UTF-8, in their order. The files that can be read and are not valid UTF-8 are all that the one counts as failed and
    the other as read; and those that the lossy scan counts as failed are just those that cannot be read. -/
theorem modes_agree [Marker.SizeLimit] [Glob.SizeLimit] {settings : Settings} (hb : build settings = .ok s)
    {fs : FileSystem} (hfs : fs.Proper) :
    let lossy := s.withMode .lossy
    let strict := s.withMode .failFast
    build { settings with encodingMode := .lossy } = .ok lossy ∧
    build { settings with encodingMode := .failFast } = .ok strict ∧
    (∀ mode read limit counters, ∃ ended, (s.withMode mode).Scans fs read limit counters ended) ∧
    ∀ {read limit limit' counters counters' after after' result result'},
      lossy.Scans fs read limit counters (result, after) → strict.Scans fs read limit' counters' (result', after') →
      (∃ e, result = .error e ∧ result' = .error e) ∨
      ∃ root o o', s.root fs = .ok root ∧ result = .ok o ∧ result' = .ok o' ∧
        let files := s.files fs root
        let bad := files.countP fun below => malformed (read (root ++ below))
        (o'.items = o.items.filter fun i => files.any fun below =>
          String.ofList (pathText below) = i.filePath && encoded (read (root ++ below))) ∧
        o'.failed = o.failed + bad ∧ o'.scanned + bad = o.scanned ∧
        o.failed = files.countP fun below => (read (root ++ below)).toOption.isNone := by
  have ends : ∀ mode read limit counters, ∃ ended, (s.withMode mode).Scans fs read limit counters ended :=
    fun _ _ _ _ => by
      obtain ⟨after, h⟩ := scans_iff.mpr rfl
      exact ⟨_, h⟩
  refine ⟨build_withMode hb .lossy, build_withMode hb .failFast, ends, ?_⟩
  intro read limit limit' counters counters' after after' result result' hl hs
  rcases ended_of_scans hl with ⟨e, hroot, rfl⟩ | ⟨root, hroot, rfl⟩
  · rcases ended_of_scans hs with ⟨e', hroot', rfl⟩ | ⟨root', hroot', -⟩
    · obtain rfl := Except.error.inj (hroot.symm.trans hroot')
      exact .inl ⟨e, rfl, rfl⟩
    · cases hroot.symm.trans hroot'
  · rcases ended_of_scans hs with ⟨e', hroot', -⟩ | ⟨root', hroot', rfl⟩
    · cases hroot.symm.trans hroot'
    obtain rfl := Except.ok.inj (hroot.symm.trans hroot')
    exact .inr ⟨root, _, _, hroot, rfl, rfl, outputs_agree hfs hroot⟩

/-- Two files with a marker each, of which the second one is not UTF-8. -/
def brokenTree : FileSystem :=
  ⟨.dir [("w".toList, .dir [("a.rs".toList, .file "// TODO: kept".toUTF8),
    ("b.rs".toList, .file ⟨#[0x23, 0x20, 0x42, 0x55, 0x47, 0x3A, 0x20, 0xFF]⟩)])], []⟩

/-- The lossy scan has both markers, and the one that fails fast has the first one only. -/
theorem modes_agree_broken_file :
    let s : Scanner := ⟨.forRoot "/w", .build (Settings.defaultFolders.map String.toList)
      (Settings.defaultPatterns.map String.toList) (Settings.defaultExtensions.map String.toList),
      ⟨⟨["TODO".toList, "FIXME".toList, "HACK".toList, "NOTE".toList, "BUG".toList]⟩, .lossy⟩⟩
    let one : Item := ⟨"a.rs", 1, "[TODO] kept", none, none, none⟩
    let two : Item := ⟨"b.rs", 1, "[BUG] \uFFFD", none, none, none⟩
    let read := brokenTree.readUnless fun _ => none
    ∃ o o' after after', (s.withMode .lossy).Scans brokenTree read .forScan {} (.ok o, after) ∧
      (s.withMode .failFast).Scans brokenTree read .forScan {} (.ok o', after') ∧
      o.items = [one, two] ∧ o'.items = [one] ∧ o.failed = 0 ∧ o'.failed = 1 ∧ o'.scanned + 1 = o.scanned := by
  intro s one two read
  have hr : Marker.Recogniser.build (Settings.forRoot "/w").activeKeywords =
      .ok ⟨["TODO".toList, "FIXME".toList, "HACK".toList, "NOTE".toList, "BUG".toList]⟩ := by decide +kernel
  have hb : build (.forRoot "/w") = .ok s := by
    rw [build, hr]
    rfl
  have hfs : brokenTree.Proper := ⟨rfl, by decide +kernel⟩
  have hroot : s.root brokenTree = .ok ["w".toList] := by decide +kernel
  have hdir : brokenTree.top.node? ["w".toList] = some (.dir [("a.rs".toList, .file "// TODO: kept".toUTF8),
    ("b.rs".toList, .file ⟨#[0x23, 0x20, 0x42, 0x55, 0x47, 0x3A, 0x20, 0xFF]⟩)]) := rfl
  have hfiles : s.files brokenTree ["w".toList] = [["a.rs".toList], ["b.rs".toList]] := by
    rw [files, FileSystem.walkFrom_placeText hfs _ hdir, Node.wanted_dir, List.mergeSort_of_pairwise]
    · decide +kernel
    · decide +kernel
  have lossy : ((s.withMode .lossy).scanReading brokenTree read {}).1 =
      .ok { items := [one, two], scanned := 2, withItems := 2 } := by
    have hroot' : (s.withMode .lossy).root brokenTree = .ok ["w".toList] := hroot
    rw [scanReading, hroot']
    show Except.ok (collect (List.map _ (s.files brokenTree ["w".toList]))) = _
    rw [hfiles]
    decide +kernel
  obtain ⟨-, -, ends, agree⟩ := modes_agree hb hfs
  obtain ⟨after, hl⟩ := scans_iff.mpr lossy.symm
  obtain ⟨⟨result', after'⟩, hs⟩ := ends .failFast read .forScan {}
  rcases agree hl hs with ⟨e, he, -⟩ | ⟨root, o, o', hroot', ho, rfl, items, failed, scanned, -⟩
  · cases he
  obtain rfl := Except.ok.inj (hroot.symm.trans hroot')
  obtain rfl := Except.ok.inj ho
  rw [hfiles] at items failed scanned
  have bad : [["a.rs".toList], ["b.rs".toList]].countP (fun below => malformed (read ("w".toList :: below))) = 1 := by
    decide +kernel
  exact ⟨_, o', after, after', hl, hs, rfl, items.trans (by decide +kernel), rfl, failed.trans (congrArg _ bad),
    (congrArg _ bad).symm.trans scanned⟩

end Scanner

end MarkerScan
