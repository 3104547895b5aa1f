import MarkerScan.Delivery.Retry
import MarkerScan.Item.Basic
/-
  MarkerScan.Delivery.Batch — delivering many items, one by one.

  Every item is tried by itself. One that is given up is a failure in the report, with
  its tries and its last error, and the others go on.
-/

namespace MarkerScan

/-- An item that was given up. -/
structure DeliveryFailure where
  filePath : String
  line : Nat
  attempts : Nat
  error : DeliveryError
  deriving DecidableEq, Repr

structure DeliveryReport where
  delivered : Nat := 0
  /-- In the order of the items. -/
  failures : List DeliveryFailure := []
  deriving DecidableEq, Repr

namespace DeliveryReport

def total (r : DeliveryReport) : Nat := r.delivered + r.failures.length

def isSuccess (r : DeliveryReport) : Bool := r.failures.isEmpty

/-- Adds what became of one item. -/
def add (r : DeliveryReport) : Option DeliveryFailure → DeliveryReport
  | some f => { r with failures := r.failures ++ [f] }
  | none => { r with delivered := r.delivered + 1 }

def ofOutcomes (outcomes : List (Option DeliveryFailure)) : DeliveryReport := outcomes.foldl add {}

end DeliveryReport

/-- The failure that a run of tries for an item amounts to, if it is one. -/
def Item.failure? {σ : Type} (item : Item) (run : RetryPolicy.Run σ Unit) : Option DeliveryFailure :=
  match run.result with
  | .ok _ => none
  | .error e => some ⟨item.filePath, item.line, run.attempts, e⟩

/-- What becomes of each item when `deliver` is tried on one after the other. -/
def outcomes {σ : Type} (policy : RetryPolicy) (deliver : Item → σ → Except DeliveryError Unit × σ) :
    List Item → σ → List (Option DeliveryFailure) × σ
  | [], s => ([], s)
  | item :: rest, s =>
    let run := policy.run (deliver item) s
    let (more, s) := outcomes policy deliver rest run.state
    (item.failure? run :: more, s)

/-- What became of a batch. -/
structure Batch (σ : Type) where
  report : DeliveryReport
  /-- Each item, and whether it was delivered. -/
  progress : List (Item × Bool)
  state : σ

def deliverAll {σ : Type} (policy : RetryPolicy) (deliver : Item → σ → Except DeliveryError Unit × σ)
    (items : List Item) (s : σ) : Batch σ :=
  let (each, s) := outcomes policy deliver items s
  ⟨.ofOutcomes each, items.zip (each.map Option.isNone), s⟩

end MarkerScan
