import Mathlib.Data.List.Flatten
import MarkerScan.Proofs.Marker.Grammar
import MarkerScan.Proofs.Marker.Words
import MarkerScan.Proofs.Scan.Counters
import MarkerScan.Proofs.Scan.Order
/-
  MarkerScan.Proofs.Scan.Keywords — what more keywords change.

  The keywords of a line are tried in the order of their list, so one that stands behind
  another is only tried where that one gives nothing; and a line opens in one form only, so
  no form that is tried earlier can take over a line that another one has
  (`marker?_append`). What a list of entries stands for is made entry by entry
  (`activeWords_append`, `usable_append`).

  Proved, for every tree and any number of workers: `scan_more_keywords`. What a scan finds
  is still found when there are more keywords behind the old ones, with the same text and
  metadata at the same place, and in the same order.
-/

namespace MarkerScan

/-! ## One line -/

namespace Marker

variable {keywords more : List (List Char)} {line : List Char}

theorem usable_append (keywords more : List (List Char)) :
    usable (keywords ++ more) = usable keywords ++ usable more := by
  rw [usable, List.map_append, List.filter_append]
  rfl

theorem form_marker?_append {f : Form} {m : List Char × List Char} (h : f.marker? keywords line = some m) :
    f.marker? (keywords ++ more) line = some m := by
  unfold Form.marker? at h ⊢
  cases hs : f.opened? line with
  | none => rw [hs] at h; cases h
  | some s =>
    rw [hs] at h
    simp only at h ⊢
    rw [List.findSome?_append, h, Option.some_or]

theorem marker?_append {m : List Char × List Char} (h : marker? keywords line = some m) :
    marker? (keywords ++ more) line = some m := by
  obtain ⟨f, hf, hm⟩ := (findSome?_eq_some_iff_of_unique marker?_unique).mp h
  exact (findSome?_eq_some_iff_of_unique marker?_unique).mpr ⟨f, hf, form_marker?_append hm⟩

namespace Recogniser

variable {r r' : Recogniser}

theorem line?_append {found : Found} (hr : r'.keywords = r.keywords ++ more) (h : r.line? line = some found) :
    r'.line? line = some found := by
  obtain ⟨m, hm, hfound⟩ := Option.map_eq_some_iff.mp h
  rw [line?, hr, marker?_append hm, Option.map_some, hfound]

theorem keywords_of_build [SizeLimit] (hb : build keywords = .ok r) (hb' : build (keywords ++ more) = .ok r') :
    r'.keywords = r.keywords ++ usable more := by
  rw [(startsSolid_of_build hb).1, (startsSolid_of_build hb').1, usable_append]

/-- The items of a text stay, among those with the new keywords. -/
theorem items_sublist (hr : r'.keywords = r.keywords ++ more) (path : String) (text : List Char) :
    (r.items path text).Sublist (r'.items path text) := by
  unfold items
  rw [List.filterMap_eq_flatMap_toList, List.filterMap_eq_flatMap_toList]
  apply List.Sublist.flatMap_right
  rintro ⟨l, n⟩ -
  simp only
  cases hl : r.line? l with
  | none => exact List.nil_sublist _
  | some found => rw [line?_append hr hl]

end Recogniser

end Marker

/-! ## A file and a scan -/

namespace FileReader

variable {r r' : FileReader} {more : List (List Char)}

/-- With more keywords the same files can be read, and each gives what it gave before. -/
theorem items_of_more (hmode : r'.mode = r.mode) (hr : r'.recogniser.keywords = r.recogniser.keywords ++ more)
    (path shown : String) (bytes : Except FileFault ByteArray) :
    (∃ e, r.items path shown bytes = .error e ∧ r'.items path shown bytes = .error e) ∨
      ∃ size found found', r.items path shown bytes = .ok (size, found) ∧
        r'.items path shown bytes = .ok (size, found') ∧ found.Sublist found' := by
  cases bytes with
  | error fault => exact .inl ⟨_, rfl, rfl⟩
  | ok bytes =>
    simp only [items, hmode]
    cases r.mode.decode path bytes with
    | error e => exact .inl ⟨e, rfl, rfl⟩
    | ok text => exact .inr ⟨_, _, _, rfl, rfl, Marker.Recogniser.items_sublist hr shown text⟩

end FileReader

namespace Scanner

variable {settings : Settings} {more : List String} {s s' : Scanner} {fs : FileSystem}
  {read : List Name → Except FileFault ByteArray}

theorem filter_of_build [Marker.SizeLimit] [Glob.SizeLimit] (hb : build settings = .ok s) :
    s.filter = .build (settings.excludeFolders.map String.toList) (settings.excludePatterns.map String.toList)
      (settings.includeExtensions.map String.toList) := by
  unfold build at hb
  cases hr : Marker.Recogniser.build settings.activeKeywords with
  | error e => rw [hr] at hb; cases hb
  | ok r =>
    rw [hr] at hb
    obtain rfl := Except.ok.inj hb
    rfl

/-- A scanner with more keywords differs in its keywords only. -/
theorem build_more [Marker.SizeLimit] [Glob.SizeLimit] (hb : build settings = .ok s)
    (hb' : build { settings with keywords := settings.keywords ++ more } = .ok s') :
    s'.filter = s.filter ∧ s'.settings.rootPath = s.settings.rootPath ∧ s'.reader.mode = s.reader.mode ∧
      s'.reader.recogniser.keywords =
        s.reader.recogniser.keywords ++ Marker.usable (Marker.activeWords (more.map String.toList)) := by
  obtain ⟨hs, hmode, hr⟩ := build_eq_ok hb
  obtain ⟨hs', hmode', hr'⟩ := build_eq_ok hb'
  have words : Settings.activeKeywords { settings with keywords := settings.keywords ++ more } =
      settings.activeKeywords ++ Marker.activeWords (more.map String.toList) := by
    rw [Settings.activeKeywords, List.map_append, Marker.activeWords_append]
    rfl
  rw [words] at hr'
  refine ⟨?_, by rw [hs, hs'], by rw [hmode, hmode'], Marker.Recogniser.keywords_of_build hr hr'⟩
  rw [filter_of_build hb, filter_of_build hb']

/-- Everything but the keywords is the same, so the same files are read from the same root. -/
theorem files_of_more (hfilter : s'.filter = s.filter) (hpath : s'.settings.rootPath = s.settings.rootPath) :
    s'.root fs = s.root fs ∧ ∀ root, s'.files fs root = s.files fs root := by
  refine ⟨?_, fun root => ?_⟩
  · rw [Scanner.root, Scanner.root, hpath]
  · rw [files, files, hfilter]

/-- What the files give is put together file by file, so it stays where what each of them gives stays. -/
theorem collect_more {words : List (List Char)} (hmode : s'.reader.mode = s.reader.mode)
    (hr : s'.reader.recogniser.keywords = s.reader.recogniser.keywords ++ words) (files : List (List Name)) :
    let o := collect (files.map (s.readFile read))
    let o' := collect (files.map (s'.readFile read))
    o.items.Sublist o'.items ∧ o'.scanned = o.scanned ∧ o'.failed = o.failed := by
  intro o o'
  have file := fun below => FileReader.items_of_more hmode hr (String.ofList (pathText below))
    (String.ofList (pathText below)) (read below)
  have stays : ∀ below, ((itemsOf (s.readFile read below)).getD []).Sublist
      ((itemsOf (s'.readFile read below)).getD []) := by
    intro below
    rw [readFile, readFile]
    rcases file below with ⟨e, h, h'⟩ | ⟨size, found, found', h, h', hsub⟩
    · rw [h, h']
    · rw [h, h']
      exact hsub
  have readable : ∀ below, (itemsOf (s'.readFile read below)).isSome = (itemsOf (s.readFile read below)).isSome := by
    intro below
    rw [readFile, readFile]
    rcases file below with ⟨e, h, h'⟩ | ⟨size, found, found', h, h', -⟩
    · rw [h, h']
    · rw [h, h']
      rfl
  refine ⟨?_, ?_, ?_⟩
  · rw [items_collect, items_collect, List.flatMap_map, List.flatMap_map]
    exact List.Sublist.flatMap_right _ fun below _ => stays below
  · simp only [o, o', collect_eq, outputOf, List.map_map, List.countP_map, Function.comp_def, readable]
  · simp only [o, o', collect_eq, outputOf, List.map_map, List.countP_map, Function.comp_def, ← Option.not_isSome,
      readable]

/-- Keywords that are added behind the others disturb nothing. A line that was recognised says the same, whatever the
    new keywords are and whether the list is one of words or one of entries of the settings. Of the same tree, whatever
    of it can be read, a scan with the old keywords and one with the new ones too, with any numbers of workers, read the
    same files, and the items of the first are among those of the second, field by field, in the same order. -/
theorem scan_more_keywords [Marker.SizeLimit] [Glob.SizeLimit] (hb : build settings = .ok s)
    (hb' : build { settings with keywords := settings.keywords ++ more } = .ok s')
    {limit limit' : Workers} {counters counters' after after' : Counters} {o : ScanOutput}
    {result : Except ScanError ScanOutput} (h : s.Scans fs read limit counters (.ok o, after))
    (h' : s'.Scans fs read limit' counters' (result, after')) :
    (∀ (keywords new : List (List Char)) (r r' : Marker.Recogniser), Marker.Recogniser.build keywords = .ok r →
      Marker.Recogniser.build (keywords ++ new) = .ok r' →
      ∀ line found, r.line? line = some found → r'.line? line = some found) ∧
    (∀ line found, s.reader.recogniser.line? line = some found → s'.reader.recogniser.line? line = some found) ∧
    ∃ o', result = .ok o' ∧ o.items.Sublist o'.items ∧ o'.scanned = o.scanned ∧ o'.failed = o.failed := by
  obtain ⟨hfilter, hpath, hmode, hr⟩ := build_more hb hb'
  obtain ⟨sameRoot, sameFiles⟩ := @files_of_more s s' fs hfilter hpath
  refine ⟨fun keywords new r r' hk hk' line found => Marker.Recogniser.line?_append
    (Marker.Recogniser.keywords_of_build hk hk'), fun line found => Marker.Recogniser.line?_append hr, ?_⟩
  have ended := scans_iff.mp ⟨after, h⟩
  have ended' := scans_iff.mp ⟨after', h'⟩
  unfold scanReading at ended ended'
  rw [sameRoot] at ended'
  cases hroot : s.root fs with
  | error e => rw [hroot] at ended; cases ended
  | ok root =>
    rw [hroot] at ended ended'
    simp only [sameFiles] at ended ended'
    obtain rfl := Except.ok.inj ended
    exact ⟨_, ended', collect_more hmode hr _⟩

/-- A new keyword that the old one is a front of, and one whose marker stands in front of the others. -/
theorem scan_more_keywords_longer_word :
    let settings : Settings := { rootPath := some "/w", keywords := ["TODO"] }
    let tree := oneFile "# BUG: zero\n// todo one\n// TODO @x HIGH two\n// TODOS three".toUTF8
    let one : Item := ⟨"a.rs", 2, "[TODO] one", none, none, none⟩
    let two : Item := ⟨"a.rs", 3, "[TODO] two", some .high, some "x", none⟩
    ∃ s s' o o' after after', build settings = .ok s ∧
      build { settings with keywords := ["TODO", "TODOS, bug"] } = .ok s' ∧
      s.Scans tree (tree.readUnless fun _ => none) .forScan {} (.ok o, after) ∧
      s'.Scans tree (tree.readUnless fun _ => none) .forScan {} (.ok o', after') ∧
      o.items = [one, two] ∧ o.items.Sublist o'.items ∧
      o'.items =
        [⟨"a.rs", 1, "[BUG] zero", none, none, none⟩, one, two, ⟨"a.rs", 4, "[TODOS] three", none, none, none⟩] := by
  intro settings tree one two
  let s : Scanner := ⟨settings, .build (settings.excludeFolders.map String.toList)
    (settings.excludePatterns.map String.toList) (settings.includeExtensions.map String.toList),
    ⟨⟨["TODO".toList]⟩, .lossy⟩⟩
  let s' : Scanner := { s with
    settings := { settings with keywords := ["TODO", "TODOS, bug"] }
    reader := ⟨⟨["TODO".toList, "TODOS".toList, "bug".toList]⟩, .lossy⟩ }
  have hr : Marker.Recogniser.build settings.activeKeywords = .ok s.reader.recogniser := by decide +kernel
  have hr' : Marker.Recogniser.build s'.settings.activeKeywords = .ok s'.reader.recogniser := by decide +kernel
  have hb : build settings = .ok s := by
    rw [build, hr]
    rfl
  have hb' : build s'.settings = .ok s' := by
    rw [build, hr']
    rfl
  have hroot : s.root tree = .ok ["w".toList] := by decide +kernel
  have hroot' : s'.root tree = .ok ["w".toList] := by decide +kernel
  have found : .ok { items := [one, two], scanned := 1, withItems := 1 } =
      (s.scanReading tree (tree.readUnless fun _ => none) {}).1 := by
    simp only [scanReading, hroot]
    decide +kernel
  have found' : .ok { items := [⟨"a.rs", 1, "[BUG] zero", none, none, none⟩, one, two,
        ⟨"a.rs", 4, "[TODOS] three", none, none, none⟩], scanned := 1, withItems := 1 } =
      (s'.scanReading tree (tree.readUnless fun _ => none) {}).1 := by
    simp only [scanReading, hroot']
    decide +kernel
  obtain ⟨after, h⟩ : ∃ after, s.Scans tree _ .forScan {} (_, after) := scans_iff.mpr found
  obtain ⟨after', h'⟩ : ∃ after', s'.Scans tree _ .forScan {} (_, after') := scans_iff.mpr found'
  obtain ⟨-, -, o', ho, hsub, -⟩ := scan_more_keywords hb hb' h h'
  obtain rfl := Except.ok.inj ho
  exact ⟨s, s', _, _, after, after', hb, hb', h, h', rfl, hsub, rfl⟩

end Scanner

end MarkerScan
