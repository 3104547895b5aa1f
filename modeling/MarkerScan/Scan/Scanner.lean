import MarkerScan.Item.Basic
import MarkerScan.Marker.Line
import MarkerScan.Scan.Counters
import MarkerScan.Scan.Pool
import MarkerScan.Settings.Basic
import MarkerScan.Tree.Walk
/-
  MarkerScan.Scan.Scanner — reading files, and scanning a tree.

  A reader turns the bytes of one file into items: it decodes them, cuts the text into
  lines and recognises the markers. A scanner resolves its root to a directory, walks it
  and reads every file of the walk in order. A file that cannot be read or decoded counts
  as failed and changes nothing for the others; only a root that is no directory makes a
  scan fail, and then no counter moves.

  The bytes of the files come from a function, so a file may be gone between the walk
  and its turn.

  The files are read by a pool of workers. Of what they do only the peak of the counters
  depends on how many they are and on who is done first, so `scan` lets one worker read
  the files one after the other; `Scans` lets as many as the settings allow read them in
  any order. That the workers can be started is taken for granted.
-/

namespace MarkerScan

/-! ## What a scan found -/

structure ScanOutput where
  /-- In the order of the files, and of the lines in each. -/
  items : List Item := []
  /-- Files read. -/
  scanned : Nat := 0
  /-- Files that could not be read. -/
  failed : Nat := 0
  /-- Files read that gave an item. -/
  withItems : Nat := 0
  deriving DecidableEq, Repr

namespace ScanOutput

/-- One more file was read and gave these items. -/
def addFile (o : ScanOutput) (items : List Item) : ScanOutput :=
  { o with
    items := o.items ++ items
    scanned := o.scanned + 1
    withItems := if items.isEmpty then o.withItems else o.withItems + 1 }

/-- One more file could not be read. -/
def addFailed (o : ScanOutput) : ScanOutput := { o with failed := o.failed + 1 }

/-- Adds what became of one file: its items, or `none` if it could not be read. -/
def add (o : ScanOutput) : Option (List Item) → ScanOutput
  | some items => o.addFile items
  | none => o.addFailed

def total (o : ScanOutput) : Nat := o.items.length

/-- The items by path and line. -/
def sorted (o : ScanOutput) : List Item := Item.sorted o.items

end ScanOutput

/-! ## Readers and scanners -/

structure FileReader where
  recogniser : Marker.Recogniser
  mode : EncodingMode
  deriving DecidableEq, Repr

namespace FileReader

/-- The items of a file at `path` that is shown as `shown`, and its size. -/
def items (r : FileReader) (path shown : String) (bytes : Except FileFault ByteArray) :
    Except ScanError (Nat × List Item) :=
  match bytes with
  | .error fault => .error (.ofFile path fault)
  | .ok bytes => (r.mode.decode path bytes).map fun text => (bytes.size, r.recogniser.items shown text)

end FileReader

namespace Counters

/-- A worker that is in is done with a file with this result. -/
def finish (c : Counters) : Except ScanError (Nat × List Item) → Counters
  | .ok (size, items) => (c.record (UInt64.ofNat size) (UInt64.ofNat items.length)).leave
  | .error _ => c.recordFailure.leave

/-- One worker reads a file with this result. -/
def file (c : Counters) (result : Except ScanError (Nat × List Item)) : Counters := c.enter.finish result

end Counters

structure Scanner where
  settings : Settings
  filter : Filter
  reader : FileReader

namespace Scanner

def build [Marker.SizeLimit] [Glob.SizeLimit] (s : Settings) : Except ScanError Scanner :=
  (Marker.Recogniser.build s.activeKeywords).map fun r =>
    { settings := s
      filter := .build (s.excludeFolders.map String.toList) (s.excludePatterns.map String.toList)
        (s.includeExtensions.map String.toList)
      reader := ⟨r, s.encodingMode⟩ }

/-- The place of the directory to scan. -/
def root (s : Scanner) (fs : FileSystem) : Except ScanError (List Name) :=
  match s.settings.rootPath with
  | none => .error (.rootUnavailable "no scan root is configured")
  | some path => match fs.resolve path.toList with
    | .error fault => .error (.rootUnavailable (path ++ ": " ++ fault.message))
    | .ok place =>
      if (fs.top.node? place).any Node.isDir then .ok place
      else .error (.rootUnavailable (path ++ " is not a directory"))

/-- What reading the file at this place below the root gives. -/
def readFile (s : Scanner) (read : List Name → Except FileFault ByteArray) (place : List Name) :
    Except ScanError (Nat × List Item) :=
  let shown := String.ofList (pathText place)
  s.reader.items shown shown (read place)

def itemsOf : Except ScanError (Nat × List Item) → Option (List Item)
  | .ok (_, items) => some items
  | .error _ => none

/-- The output for what reading the files gave, in order. -/
def collect (results : List (Except ScanError (Nat × List Item))) : ScanOutput :=
  results.foldl (fun o r => o.add (itemsOf r)) {}

/-- The files to read, as places below the root. -/
def files (s : Scanner) (fs : FileSystem) (root : List Name) : List (List Name) :=
  fs.walkFrom s.filter (FileSystem.placeText root)

/-- Scans once, where `read` gives the bytes of the file at a place: what was found, and the counters after it. -/
def scanReading (s : Scanner) (fs : FileSystem) (read : List Name → Except FileFault ByteArray)
    (counters : Counters) : Except ScanError ScanOutput × Counters :=
  match s.root fs with
  | .error e => (.error e, counters)
  | .ok root =>
    let results := (s.files fs root).map (s.readFile fun below => read (root ++ below))
    (.ok (collect results), results.foldl Counters.file counters)

/-- Scans once: what was found, and the counters after it. -/
def scan (s : Scanner) (fs : FileSystem) (counters : Counters) : Except ScanError ScanOutput × Counters :=
  s.scanReading fs (fs.readUnless fun _ => none) counters

/-! ## Scanning with many workers -/

/-- What the workers do with each file: one that takes a file enters, reads it in one move, and leaves. -/
def work (s : Scanner) (read : List Name → Except FileFault ByteArray) :
    Pool.Work (List Name) (Except ScanError (Nat × List Item)) Counters where
  enter := Counters.enter
  move place c := let result := s.readFile read place; (.inr result, c.finish result)

/-- What a scan may end with when so many workers read the files, each as soon as it is free. -/
inductive Scans (s : Scanner) (fs : FileSystem) (read : List Name → Except FileFault ByteArray) (limit : Workers)
    (counters : Counters) : Except ScanError ScanOutput × Counters → Prop
  | unavailable {e : ScanError} : s.root fs = .error e → Scans s fs read limit counters (.error e, counters)
  | done {root : List Name} {p : Pool (List Name) (Except ScanError (Nat × List Item)) Counters} :
      s.root fs = .ok root →
      Pool.Reach (s.work fun below => read (root ++ below)) limit.count (s.files fs root) counters p → p.Done →
      Scans s fs read limit counters (.ok (collect p.results), p.shared)

end Scanner

end MarkerScan
