import Mathlib.Algebra.Ring.Nat
import MarkerScan.Proofs.Scan.Scanner
/-
  MarkerScan.Proofs.Scan.Counters — what the counters of a scanner say of its scans.

  The counters are moved by the workers, file by file and in any order; the output of a scan
  is made of the results when all workers are done. Both are sums over the files of the
  walk. While workers are in, the counters tell how many, and the sums over the files that
  are done (`Counters.Counts`); one step of a worker keeps that (`counts_tallies`), so a scan
  adds its own files to those of the scans before it (`counts_of_scans`).

  Proved, over every life of a scanner, whatever becomes of the tree between its scans
  (`Life`): `counters_agree`. A scan without a root leaves every counter as it was.
-/

namespace MarkerScan

/-! ## One scan -/

/-- What files that are done gave: of those that were read their sizes and items, in any order. -/
abbrev Scanner.Results := List (Except ScanError (Nat × List Item))

namespace Counters

/-- `n` workers are in, and the files with these results are done. -/
structure Counts (n : Nat) (rs : Scanner.Results) (c : Counters) : Prop where
  active : c.active = .ofNat n
  filesRead : c.filesRead = .ofNat (rs.filterMap Except.toOption).length
  filesFailed : c.filesFailed = .ofNat (rs.countP fun r => r.toOption.isNone)
  bytesRead : c.bytesRead = .ofNat ((rs.filterMap Except.toOption).map (·.1)).sum
  filesMapped : c.filesMapped = .ofNat ((rs.filterMap Except.toOption).countP fun r => largeFile ≤ .ofNat r.1)
  itemsFound : c.itemsFound = .ofNat ((rs.filterMap Except.toOption).map (·.2.length)).sum

theorem counts_fresh : Counts 0 [] {} := ⟨rfl, rfl, rfl, rfl, rfl, rfl⟩

variable {n : Nat} {rs rs' : Scanner.Results} {c : Counters}

theorem counts_enter (h : Counts n rs c) : Counts (n + 1) rs c.enter where
  active := by rw [enter, h.active, UInt64.ofNat_add]; rfl
  filesRead := h.filesRead
  filesFailed := h.filesFailed
  bytesRead := h.bytesRead
  filesMapped := h.filesMapped
  itemsFound := h.itemsFound

theorem counts_leave (h : Counts (n + 1) rs c) : Counts n rs c.leave where
  active := by rw [leave, h.active, UInt64.ofNat_add]; exact UInt64.add_sub_cancel _ _
  filesRead := h.filesRead
  filesFailed := h.filesFailed
  bytesRead := h.bytesRead
  filesMapped := h.filesMapped
  itemsFound := h.itemsFound

theorem counts_record (h : Counts n rs c) (size : Nat) (items : List Item) :
    Counts n (.ok (size, items) :: rs) (c.record (.ofNat size) (.ofNat items.length)) := by
  have done : (Except.ok (size, items) :: rs : Scanner.Results).filterMap Except.toOption =
      (size, items) :: rs.filterMap Except.toOption := rfl
  refine ⟨h.active, ?_, h.filesFailed, ?_, ?_, ?_⟩
  · rw [done, List.length_cons, UInt64.ofNat_add, ← h.filesRead]
    rfl
  · rw [done, List.map_cons, List.sum_cons, Nat.add_comm, UInt64.ofNat_add, ← h.bytesRead]
    rfl
  · rw [done, List.countP_cons, UInt64.ofNat_add, ← h.filesMapped]
    simp only [record, decide_eq_true_eq]
    split
    · rfl
    · exact (UInt64.add_zero _).symm
  · rw [done, List.map_cons, List.sum_cons, Nat.add_comm, UInt64.ofNat_add, ← h.itemsFound]
    rfl

theorem counts_recordFailure (h : Counts n rs c) (e : ScanError) : Counts n (.error e :: rs) c.recordFailure where
  active := h.active
  filesRead := h.filesRead
  filesFailed := by
    rw [List.countP_cons_of_pos rfl, UInt64.ofNat_add, ← h.filesFailed]
    rfl
  bytesRead := h.bytesRead
  filesMapped := h.filesMapped
  itemsFound := h.itemsFound

theorem counts_finish (h : Counts (n + 1) rs c) (r : Except ScanError (Nat × List Item)) :
    Counts n (r :: rs) (c.finish r) := by
  cases r with
  | ok found => exact counts_leave (counts_record h found.1 found.2)
  | error e => exact counts_leave (counts_recordFailure h e)

theorem counts_perm (hp : rs.Perm rs') (h : Counts n rs c) : Counts n rs' c where
  active := h.active
  filesRead := by rw [h.filesRead, (hp.filterMap _).length_eq]
  filesFailed := by rw [h.filesFailed, hp.countP_eq]
  bytesRead := by rw [h.bytesRead, ((hp.filterMap _).map _).sum_nat]
  filesMapped := by rw [h.filesMapped, (hp.filterMap _).countP_eq]
  itemsFound := by rw [h.itemsFound, ((hp.filterMap _).map _).sum_nat]

end Counters

namespace Scanner

variable {s : Scanner} {limit : Workers}

open Counters in
/-- The files that were done before stay counted. -/
theorem counts_tallies (read : List Name → Except FileFault ByteArray) (before : Results) :
    Pool.Tallies (s.work read) fun n rs => Counts n (rs ++ before) where
  enter := counts_enter
  go hm := by cases hm
  finish hm h := by
    cases hm
    exact counts_finish h _
  perm hp := counts_perm (hp.append_right before)

/-- What reading the files of a walk gives, in the order of the walk. -/
def resultsOf (s : Scanner) (fs : FileSystem) (read : List Name → Except FileFault ByteArray) : Results :=
  match s.root fs with
  | .error _ => []
  | .ok root => (s.files fs root).map (s.readFile fun below => read (root ++ below))

/-- A scan that finds something adds what the files of its walk gave; without a root it adds nothing. -/
theorem counts_of_scans {fs : FileSystem} {read : List Name → Except FileFault ByteArray} {before : Results}
    {c after : Counters} {result : Except ScanError ScanOutput} (hc : c.Counts 0 before)
    (h : s.Scans fs read limit c (result, after)) :
    after.Counts 0 (s.resultsOf fs read ++ before) ∧
      ((∃ root, s.root fs = .ok root ∧ result = .ok (collect (s.resultsOf fs read))) ∨
        ∃ e, s.root fs = .error e ∧ result = .error e ∧ after = c) := by
  cases h with
  | @unavailable e hroot =>
    rw [resultsOf, hroot]
    exact ⟨hc, .inr ⟨e, rfl, rfl, rfl⟩⟩
  | @done root p hroot hp hd =>
    have all : s.resultsOf fs read = p.results := by rw [resultsOf, hroot, results_of_done hp hd]
    have counts := Pool.tally_reach (counts_tallies _ before) hc hp
    rw [hd.2, List.length_nil] at counts
    rw [all]
    exact ⟨counts, .inl ⟨root, hroot, rfl⟩⟩

/-! ## The life of a scanner -/

/-- One scan of a scanner: the tree then, what its files give, and what the scan ended with. -/
structure Call where
  fs : FileSystem
  read : List Name → Except FileFault ByteArray
  result : Except ScanError ScanOutput

/-- The scans of a scanner so far, and its counters then. The tree may be another one at each scan. -/
inductive Life (s : Scanner) (limit : Workers) : List Call → Counters → Prop
  | fresh : Life s limit [] {}
  | scan {calls : List Call} {c after : Counters} {call : Call} : Life s limit calls c →
      s.Scans call.fs call.read limit c (call.result, after) → Life s limit (calls ++ [call]) after

/-- For each file of the walk its bytes, if they can be read and decoded. -/
def contents (s : Scanner) (call : Call) : List (Option ByteArray) :=
  match s.root call.fs with
  | .error _ => []
  | .ok root => (s.files call.fs root).map fun below =>
    match call.read (root ++ below) with
    | .error _ => none
    | .ok bytes => (s.reader.mode.decode (String.ofList (pathText below)) bytes).toOption.map fun _ => bytes

/-- What the scan of a call gave of its files, one by one. -/
def Call.results (s : Scanner) (call : Call) : Results := s.resultsOf call.fs call.read

/-- The scan of a call ended with what its files gave, or without a root and with none. -/
def Call.EndsWith (s : Scanner) (call : Call) : Prop :=
  call.result = .ok (collect (call.results s)) ∨ (∃ e, call.result = .error e) ∧ call.results s = []

theorem counts_of_life {calls : List Call} {c : Counters} (h : Life s limit calls c) :
    c.Counts 0 (calls.flatMap (·.results s)) ∧ ∀ call ∈ calls, call.EndsWith s := by
  induction h with
  | fresh => exact ⟨Counters.counts_fresh, by simp⟩
  | @scan calls c after call _ hs ih =>
    obtain ⟨counts, ends⟩ := ih
    obtain ⟨counts', ends'⟩ := counts_of_scans counts hs
    refine ⟨?_, fun x hx => ?_⟩
    · rw [List.flatMap_append, List.flatMap_singleton]
      exact Counters.counts_perm List.perm_append_comm counts'
    · rcases List.mem_append.mp hx with hx | hx
      · exact ends x hx
      · obtain rfl := List.mem_singleton.mp hx
        rcases ends' with ⟨root, -, hr⟩ | ⟨e, hroot, hr, -⟩
        · exact .inl hr
        · exact .inr ⟨⟨e, hr⟩, by rw [Call.results, resultsOf, hroot]⟩

/-! ## Sums over outputs and sums over files -/

/-- What is a sum over the files of each scan is one over the files of all scans. -/
theorem sum_outputs {calls : List Call} (h : ∀ call ∈ calls, call.EndsWith s) {ofOutput : ScanOutput → Nat}
    (ofResults : Results → Nat) (zero : ofResults [] = 0) (append : ∀ a b, ofResults (a ++ b) = ofResults a + ofResults b)
    (same : ∀ rs, ofOutput (collect rs) = ofResults rs) :
    ((calls.filterMap (·.result.toOption)).map ofOutput).sum = ofResults (calls.flatMap (·.results s)) := by
  induction calls with
  | nil => exact zero.symm
  | cons call calls ih =>
    have rest := ih fun x hx => h x (List.mem_cons_of_mem _ hx)
    rw [List.flatMap_cons, append, ← rest, List.filterMap_cons]
    rcases h call List.mem_cons_self with hr | ⟨⟨e, hr⟩, hn⟩
    · simp only [hr, Except.toOption, List.map_cons, List.sum_cons, same]
    · simp only [hr, Except.toOption, hn, zero, Nat.zero_add]

theorem itemsOf_eq (r : Except ScanError (Nat × List Item)) : itemsOf r = r.toOption.map (·.2) := by
  cases r <;> rfl

theorem scanned_collect (rs : Results) : (collect rs).scanned = (rs.filterMap Except.toOption).length := by
  have same : (collect rs).scanned = (rs.map itemsOf).countP (·.isSome) := by rw [collect_eq, outputOf]
  rw [same, List.countP_map, List.length_filterMap_eq_countP]
  refine List.countP_congr fun r _ => ?_
  rw [Function.comp, itemsOf_eq, Option.isSome_map]

theorem failed_collect (rs : Results) : (collect rs).failed = rs.countP fun r => r.toOption.isNone := by
  have same : (collect rs).failed = (rs.map itemsOf).countP (·.isNone) := by rw [collect_eq, outputOf]
  rw [same, List.countP_map]
  refine List.countP_congr fun r _ => ?_
  rw [Function.comp, itemsOf_eq, Option.isNone_map]

theorem total_collect (rs : Results) :
    (collect rs).total = ((rs.filterMap Except.toOption).map (·.2.length)).sum := by
  rw [collect_eq, outputOf, ScanOutput.total]
  induction rs with
  | nil => rfl
  | cons r rs ih =>
    rw [List.map_cons, List.flatMap_cons, List.length_append, ih]
    cases r with
    | error e => exact Nat.zero_add _
    | ok found => rfl

/-- The files that were read are those whose bytes could be read and decoded. -/
theorem contents_eq (s : Scanner) (call : Call) :
    (call.results s).map (fun r => r.toOption.map (·.1)) = (s.contents call).map (·.map (·.size)) := by
  rw [Call.results, resultsOf, contents]
  cases s.root call.fs with
  | error e => rfl
  | ok root =>
    simp only [List.map_map]
    refine List.map_congr_left fun below _ => ?_
    simp only [Function.comp, readFile, FileReader.items]
    cases call.read (root ++ below) with
    | error fault => rfl
    | ok bytes =>
      simp only
      cases s.reader.mode.decode (String.ofList (pathText below)) bytes with
      | error e => rfl
      | ok text => rfl

theorem contents_flatMap_eq (s : Scanner) (calls : List Call) :
    (calls.flatMap (·.results s)).map (fun r => r.toOption.map (·.1)) =
      (calls.flatMap s.contents).map (·.map (·.size)) := by
  rw [List.map_flatMap, List.map_flatMap]
  exact List.flatMap_congr fun call _ => contents_eq s call

/-- The sizes that were recorded are those of the files that were read and decoded. -/
theorem sizes_eq (s : Scanner) (calls : List Call) :
    ((calls.flatMap (·.results s)).filterMap Except.toOption).map (·.1) =
      ((calls.flatMap s.contents).filterMap id).map (·.size) := by
  have all := contents_flatMap_eq s calls
  calc ((calls.flatMap (·.results s)).filterMap Except.toOption).map (·.1)
      = ((calls.flatMap (·.results s)).map fun r => r.toOption.map (·.1)).filterMap id := by
        rw [List.map_filterMap, List.filterMap_map]; rfl
    _ = ((calls.flatMap s.contents).filterMap id).map (·.size) := by
        rw [all, List.map_filterMap, List.filterMap_map]; rfl

/-- And the failures are the others. -/
theorem failures_eq (s : Scanner) (calls : List Call) :
    ((calls.flatMap (·.results s)).countP fun r => r.toOption.isNone) =
      (calls.flatMap s.contents).countP (·.isNone) := by
  have all := congrArg (List.countP (·.isNone)) (contents_flatMap_eq s calls)
  rw [List.countP_map, List.countP_map] at all
  simpa only [Function.comp_def, Option.isNone_map] using all

/-- No file has 2^64 bytes, so those that are mapped are those of at least 10 MiB. -/
theorem mapped_eq (s : Scanner) (calls : List Call)
    (small : ∀ bytes ∈ (calls.flatMap s.contents).filterMap id, bytes.size < UInt64.size) :
    (((calls.flatMap (·.results s)).filterMap Except.toOption).countP fun r => largeFile ≤ .ofNat r.1) =
      ((calls.flatMap s.contents).filterMap id).countP fun bytes => 10 * 1024 * 1024 ≤ bytes.size := by
  have counted := congrArg (List.countP fun size => largeFile ≤ .ofNat size) (sizes_eq s calls)
  rw [List.countP_map, List.countP_map] at counted
  refine counted.trans (List.countP_congr fun bytes hb => ?_)
  have large : largeFile ≤ .ofNat bytes.size ↔ 10 * 1024 * 1024 ≤ bytes.size := by
    rw [UInt64.le_iff_toNat_le, UInt64.toNat_ofNat_of_lt' (small bytes hb)]
    rfl
  simpa using large

/-! ## The counters and the outputs -/

/-- The outputs of the scans add up to what their files gave. -/
theorem totals_of_outputs {calls : List Call} (h : ∀ call ∈ calls, call.EndsWith s) :
    let outputs := calls.filterMap (·.result.toOption)
    let rs := calls.flatMap (·.results s)
    (outputs.map (·.scanned)).sum = (rs.filterMap Except.toOption).length ∧
      (outputs.map (·.failed)).sum = rs.countP (fun r => r.toOption.isNone) ∧
      (outputs.map (·.total)).sum = ((rs.filterMap Except.toOption).map (·.2.length)).sum :=
  ⟨sum_outputs h (fun rs => (rs.filterMap Except.toOption).length) rfl
      (fun a b => by rw [List.filterMap_append, List.length_append]) scanned_collect,
    sum_outputs h (fun rs => rs.countP fun r => r.toOption.isNone) rfl (fun _ _ => List.countP_append) failed_collect,
    sum_outputs h (fun rs => ((rs.filterMap Except.toOption).map (·.2.length)).sum) rfl
      (fun a b => by rw [List.filterMap_append, List.map_append, List.sum_append]) total_collect⟩

/-- After every scan of a scanner no worker is in, and the counters, which have 64 bits, tell of all its scans what
    their outputs tell: the files that were read, those that failed, and the items. The bytes are those of the files
    that were read and decoded, and those of at least 10 MiB among them count as mapped. A scan that ends with an
    error has no root and changes nothing. -/
theorem counters_agree {calls : List Call} {c : Counters} (h : Life s limit calls c) :
    let outputs := calls.filterMap (·.result.toOption)
    let files := calls.flatMap s.contents
    let read := files.filterMap id
    c.active = 0 ∧
      (c.filesRead = .ofNat (outputs.map (·.scanned)).sum ∧ (outputs.map (·.scanned)).sum = read.length) ∧
      (c.filesFailed = .ofNat (outputs.map (·.failed)).sum ∧
        (outputs.map (·.failed)).sum = files.countP (·.isNone)) ∧
      c.itemsFound = .ofNat (outputs.map (·.total)).sum ∧
      c.bytesRead = .ofNat (read.map (·.size)).sum ∧
      ((∀ bytes ∈ read, bytes.size < UInt64.size) →
        c.filesMapped = .ofNat (read.countP fun bytes => 10 * 1024 * 1024 ≤ bytes.size)) ∧
      ∀ {fs : FileSystem} {read : List Name → Except FileFault ByteArray} {e : ScanError} {after : Counters},
        s.Scans fs read limit c (.error e, after) → (∃ reason, e = .rootUnavailable reason) ∧ after = c := by
  intro outputs files read
  obtain ⟨counts, ends⟩ := counts_of_life h
  obtain ⟨scanned, failed, total⟩ := totals_of_outputs ends
  have sizes := sizes_eq s calls
  have length := congrArg List.length sizes
  rw [List.length_map, List.length_map] at length
  refine ⟨counts.active, ⟨?_, scanned.trans length⟩, ⟨?_, failed.trans (failures_eq s calls)⟩, ?_, ?_, ?_, ?_⟩
  · rw [counts.filesRead, scanned]
  · rw [counts.filesFailed, failed]
  · rw [counts.itemsFound, total]
  · rw [counts.bytesRead, sizes]
  · intro small
    rw [counts.filesMapped, mapped_eq s calls small]
  · intro fs read e after hs
    rcases (counts_of_scans counts hs).2 with ⟨root, -, hr⟩ | ⟨e', hroot, hr, same⟩
    · cases hr
    · obtain rfl := Except.error.inj hr
      exact ⟨root_error hroot, same⟩

/-- A directory `w` with one file, and no directory at all. -/
def oneFile (bytes : ByteArray) : FileSystem := ⟨.dir [("w".toList, .dir [("a.rs".toList, .file bytes)])], []⟩

def noTree : FileSystem := ⟨.dir [], []⟩

/-- Three scans, where the file holds a marker at the first, is not UTF-8 at the second, and is away with its
    directory at the third. -/
theorem counters_agree_three_scans :
    let s : Scanner := ⟨.forRoot "/w", .build [] [] ["rs".toList], ⟨⟨["TODO".toList]⟩, .failFast⟩⟩
    let marker := oneFile "// TODO: one".toUTF8
    let broken := oneFile ⟨#[0x23, 0xFF]⟩
    let item : Item := ⟨"a.rs", 1, "[TODO] one", none, none, none⟩
    let calls : List Call :=
      [⟨marker, marker.readUnless fun _ => none, .ok { items := [item], scanned := 1, withItems := 1 }⟩,
        ⟨broken, broken.readUnless fun _ => none, .ok { failed := 1 }⟩,
        ⟨noTree, noTree.readUnless fun _ => none, .error (.rootUnavailable "/w: No such file or directory (os error 2)")⟩]
    ∃ c, Life s .forScan calls c ∧
      c.active = 0 ∧ c.filesRead = 1 ∧ c.filesFailed = 1 ∧ c.itemsFound = 1 ∧ c.filesMapped = 0 := by
  intro s marker broken item calls
  have first : ∀ c, .ok { items := [item], scanned := 1, withItems := 1 } =
      (s.scanReading marker (marker.readUnless fun _ => none) c).1 := fun c => by
    have hroot : s.root marker = .ok ["w".toList] := by decide +kernel
    simp only [scanReading, hroot]
    decide +kernel
  have second : ∀ c, .ok { failed := 1 } = (s.scanReading broken (broken.readUnless fun _ => none) c).1 := fun c => by
    have hroot : s.root broken = .ok ["w".toList] := by decide +kernel
    simp only [scanReading, hroot]
    decide +kernel
  have third : ∀ c, .error (.rootUnavailable "/w: No such file or directory (os error 2)") =
      (s.scanReading noTree (noTree.readUnless fun _ => none) c).1 := fun c => by
    have hroot : s.root noTree = .error (.rootUnavailable "/w: No such file or directory (os error 2)") := by decide +kernel
    rw [scanReading, hroot]
  obtain ⟨_, h₁⟩ : ∃ after, s.Scans marker _ .forScan {} (_, after) := scans_iff.mpr (first _)
  obtain ⟨_, h₂⟩ : ∃ after, s.Scans broken _ .forScan _ (_, after) := scans_iff.mpr (second _)
  obtain ⟨c, h₃⟩ : ∃ after, s.Scans noTree _ .forScan _ (_, after) := scans_iff.mpr (third _)
  have life : Life s .forScan calls c := ((Life.fresh.scan h₁).scan h₂).scan h₃
  obtain ⟨active, ⟨filesRead, -⟩, ⟨filesFailed, -⟩, itemsFound, -, filesMapped, -⟩ := counters_agree life
  have hfiles : calls.flatMap s.contents = [some "// TODO: one".toUTF8, none] := by decide +kernel
  rw [hfiles] at filesMapped
  exact ⟨c, life, active, filesRead, filesFailed, itemsFound, filesMapped (by decide +kernel)⟩

end Scanner

end MarkerScan
