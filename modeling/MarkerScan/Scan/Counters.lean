/-
  MarkerScan.Scan.Counters — what the workers of a scanner have done so far.

  A worker enters before it reads a file and leaves after it. The peak is the greatest
  number of workers that were in at once. Every counter has 64 bits and wraps.
-/

namespace MarkerScan

/-- From this size on a file is mapped into memory instead of read: 10 MiB. -/
def largeFile : UInt64 := 10 * 1024 * 1024

structure Counters where
  active : UInt64 := 0
  peak : UInt64 := 0
  filesRead : UInt64 := 0
  filesFailed : UInt64 := 0
  bytesRead : UInt64 := 0
  filesMapped : UInt64 := 0
  itemsFound : UInt64 := 0
  deriving DecidableEq, Repr

namespace Counters

def enter (c : Counters) : Counters :=
  { c with active := c.active + 1, peak := if c.peak < c.active + 1 then c.active + 1 else c.peak }

def leave (c : Counters) : Counters := { c with active := c.active - 1 }

/-- A file of `size` bytes was read and gave so many items. -/
def record (c : Counters) (size items : UInt64) : Counters :=
  { c with
    filesRead := c.filesRead + 1
    bytesRead := c.bytesRead + size
    itemsFound := c.itemsFound + items
    filesMapped := if largeFile ≤ size then c.filesMapped + 1 else c.filesMapped }

/-- A file could not be read. -/
def recordFailure (c : Counters) : Counters := { c with filesFailed := c.filesFailed + 1 }

end Counters

/-! ## Workers by name -/

/-- What happens to the counters: workers come and go under names, and files are recorded. -/
inductive Counters.Event where
  /-- A worker enters under `name`; one that was in under that name leaves after it. -/
  | enter (name : String)
  /-- The worker under `name` leaves, if there is one. -/
  | leave (name : String)
  | record (size items : UInt64)
  | fail
  deriving DecidableEq, Repr

/-- Counters together with the names of the workers that are in. -/
structure Counters.Watched where
  counters : Counters := {}
  inside : List String := []
  deriving DecidableEq, Repr

def Counters.Watched.step (w : Counters.Watched) : Counters.Event → Counters.Watched
  | .enter name =>
    if w.inside.contains name then { w with counters := w.counters.enter.leave }
    else ⟨w.counters.enter, name :: w.inside⟩
  | .leave name =>
    if w.inside.contains name then ⟨w.counters.leave, w.inside.erase name⟩ else w
  | .record size items => { w with counters := w.counters.record size items }
  | .fail => { w with counters := w.counters.recordFailure }

end MarkerScan
