import MarkerScan.Scan.Counters
/-
  MarkerScan.Scan.Sharing — counters that workers move at the same time.

  Each counter is a word of memory. A call moves it by single instructions: it adds to a
  word, reads it, or exchanges it if it still holds what was read before. Between two
  instructions of a call there can be any of other calls. A worker who enters counts itself
  in, reads the peak, and as long as it saw less than its own count tries to put that there.
  It then has a guard, and leaves when the guard is dropped.

  A handle refers to counters, and a clone of it to the same ones. What is done through one
  handle is seen through each of its clones.

  The instructions on one word have one order that all workers agree on, and adding reads
  the last of them. Of the order between the words that count files nothing is promised: a
  worker who looks at several of them while files are recorded may find one recorded in
  part. The states here are those of all words together.
-/

namespace MarkerScan.Counters

/-- What one instruction adds to a word. -/
inductive Addend where
  | fileRead
  | fileFailed
  | bytes (n : UInt64)
  | fileMapped
  | items (n : UInt64)
  deriving DecidableEq, Repr

def add (c : Counters) : Addend → Counters
  | .fileRead => { c with filesRead := c.filesRead + 1 }
  | .fileFailed => { c with filesFailed := c.filesFailed + 1 }
  | .bytes n => { c with bytesRead := c.bytesRead + n }
  | .fileMapped => { c with filesMapped := c.filesMapped + 1 }
  | .items n => { c with itemsFound := c.itemsFound + n }

/-- What is added for a file, in this order. Workers that come and go add nothing. -/
def Event.addends : Event → List Addend
  | .record size items =>
    [.fileRead, .bytes size, .items items] ++ if largeFile ≤ size then [.fileMapped] else []
  | .fail => [.fileFailed]
  | .enter _ | .leave _ => []

/-! ## Calls between two instructions -/

/-- What is under way: a call that is not over, or a guard that is out. -/
inductive Task where
  /-- The worker is counted in, as the one that made it `now`, and has not looked at the peak. -/
  | look (name : String) (now : UInt64)
  /-- It saw the peak at `seen`. -/
  | raise (name : String) (now seen : UInt64)
  | guard (name : String)
  /-- These are still to be added. -/
  | report (rest : List Addend)
  deriving DecidableEq, Repr

/-- One instruction of a call. -/
inductive Task.Step : Counters → Task → Counters → Task → Prop
  | look {c : Counters} {name : String} {now : UInt64} : Step c (.look name now) c (.raise name now c.peak)
  | exchange {c : Counters} {name : String} {now : UInt64} : c.peak < now →
      Step c (.raise name now c.peak) { c with peak := now } (.guard name)
  /-- The exchange failed. It may do so without a reason. -/
  | again {c : Counters} {name : String} {now seen : UInt64} : seen < now →
      Step c (.raise name now seen) c (.raise name now c.peak)
  | enough {c : Counters} {name : String} {now seen : UInt64} : ¬ seen < now →
      Step c (.raise name now seen) c (.guard name)
  | add {c : Counters} {x : Addend} {rest : List Addend} : Step c (.report (x :: rest)) (c.add x) (.report rest)

/-- The worker who is in, or about to be. -/
def Task.name? : Task → Option String
  | .look name _ | .raise name _ _ | .guard name => some name
  | .report _ => none

/-- The worker who is about to be in. -/
def Task.entering? : Task → Option String
  | .look name _ | .raise name _ _ => some name
  | .guard _ | .report _ => none

def Task.guard? : Task → Option String
  | .guard name => some name
  | .look .. | .raise .. | .report _ => none

def Task.rest : Task → List Addend
  | .report rest => rest
  | .look .. | .raise .. | .guard _ => []

/-- Counters with all that is under way on them. -/
structure Shared where
  counters : Counters := {}
  tasks : List Task := []
  deriving DecidableEq, Repr

namespace Shared

def names (s : Shared) : List String := s.tasks.filterMap Task.name?

def entering (s : Shared) : List String := s.tasks.filterMap Task.entering?

def guards (s : Shared) : List String := s.tasks.filterMap Task.guard?

/-- What is still to be added for files. -/
def pending (s : Shared) : List Addend := s.tasks.flatMap Task.rest

end Shared

/-- Each guard holds a reference to the count of the workers, and the process ends before there are more of them. -/
def mostGuards : Nat := UInt64.size / 2 - 1

/-- One instruction, with the event that it begins. The names are those of workers who are not in yet. -/
inductive Shared.Step : Shared → Option Event → Shared → Prop
  | enter {s : Shared} {name : String} : name ∉ s.names → s.names.length < mostGuards →
      Step s (some (.enter name))
        ⟨{ s.counters with active := s.counters.active + 1 }, .look name (s.counters.active + 1) :: s.tasks⟩
  | leave (before after : List Task) {c : Counters} {name : String} :
      Step ⟨c, before ++ .guard name :: after⟩ (some (.leave name)) ⟨c.leave, before ++ after⟩
  | report {s : Shared} {e : Event} : e.addends ≠ [] →
      Step s (some e) ⟨s.counters, .report e.addends :: s.tasks⟩
  | go (before after : List Task) {c c' : Counters} {t t' : Task} : Task.Step c t c' t' →
      Step ⟨c, before ++ t :: after⟩ none ⟨c', before ++ t' :: after⟩
  | reported (before after : List Task) {c : Counters} :
      Step ⟨c, before ++ .report [] :: after⟩ none ⟨c, before ++ after⟩

/-! ## Handles -/

/-- The counters there are, and for each handle which of them it refers to. -/
structure Handles where
  shared : List Shared := []
  refs : List Nat := []
  deriving DecidableEq, Repr

namespace Handles

/-- What is done through a handle, or one instruction of what was. -/
inductive Step : Handles → Option (Nat × Event) → Handles → Prop
  | new {w : Handles} : Step w none ⟨w.shared ++ [({} : Shared)], w.refs ++ [w.shared.length]⟩
  | clone {w : Handles} {handle i : Nat} : w.refs[handle]? = some i →
      Step w none { w with refs := w.refs ++ [i] }
  | move {w : Handles} {handle i : Nat} {s s' : Shared} {e : Option Event} : w.refs[handle]? = some i →
      w.shared[i]? = some s → s.Step e s' →
      Step w (e.map (handle, ·)) { w with shared := w.shared.set i s' }

/-- The states so far, the events with the handles they were done through, and the state now. -/
inductive Run : List Handles → List (Nat × Event) → Handles → Prop
  | start : Run [{}] [] {}
  | step {past : List Handles} {log : List (Nat × Event)} {w w' : Handles} {e : Option (Nat × Event)} :
      Run past log w → Step w e w' → Run (past ++ [w']) (log ++ e.toList) w'

/-- The events on the counters at `i`, through whatever handle. -/
def eventsOn (w : Handles) (log : List (Nat × Event)) (i : Nat) : List Event :=
  log.filterMap fun u => if w.refs[u.1]? = some i then some u.2 else none

/-- The counters at `i` in each of the states, from when they were made. -/
def history (past : List Handles) (i : Nat) : List Shared := past.filterMap (·.shared[i]?)

end Handles

end MarkerScan.Counters
