import MarkerScan.Delivery.Batch
import MarkerScan.Scan.Pool
/-
  MarkerScan.Delivery.Workers — delivering many items with many workers.

  A worker that takes an item keeps it until its tries are over. One move is one try, or,
  after the last try, telling what became of the item, whose outcome is then in its slot.
  So the tries of different workers come in any order, and a worker that waits between two
  tries is one that does not move. That the workers can be started is taken for granted;
  where they cannot, nothing is tried.

  What delivers may keep a state, which every try reads and writes, and may tell the items
  apart by their places. `deliverAll` is what one worker does that takes the items in order.
-/

namespace MarkerScan

namespace RetryPolicy

/-- Whether there is another try after so many tries, the last with this result. -/
def goesOn {α : Type} (p : RetryPolicy) (tries : Nat) : Except DeliveryError α → Bool
  | .ok _ => false
  | .error e => e.isTransient && decide (tries < p.allowed)

end RetryPolicy

/-- An item on its way. -/
structure Parcel where
  place : Nat
  item : Item
  /-- How often it was tried. -/
  tries : Nat := 0
  /-- The result of its last try, once there is no other. -/
  ended : Option (Except DeliveryError Unit) := none

/-- What the workers share. -/
structure Desk (σ : Type) where
  /-- The state of what delivers. -/
  state : σ
  /-- The places of the items that were tried, one for each try. -/
  calls : List Nat := []
  /-- The places of the items that were told of, and whether they were delivered. -/
  told : List (Nat × Bool) := []

/-- What delivers: it is told the place of an item too. -/
def Deliverer (σ : Type) : Type := Nat → Item → σ → Except DeliveryError Unit × σ

namespace Deliverer

variable {σ : Type}

/-- What delivers does not look at the place. -/
def ofItems (deliver : Item → σ → Except DeliveryError Unit × σ) : Deliverer σ := fun _ => deliver

/-- The next try, or the end after the last one. -/
def move (deliver : Deliverer σ) (policy : RetryPolicy) (p : Parcel) (d : Desk σ) :
    (Parcel ⊕ Option DeliveryFailure) × Desk σ :=
  match p.ended with
  | some result =>
    (.inr (p.item.failure? (⟨result, p.tries, [], ()⟩ : RetryPolicy.Run Unit Unit)),
      { d with told := d.told ++ [(p.place, result.isOk)] })
  | none =>
    let (result, state) := deliver p.place p.item d.state
    let tries := p.tries + 1
    let ended := if policy.goesOn tries result then none else some result
    (.inl { p with tries := tries, ended := ended }, { d with state := state, calls := d.calls ++ [p.place] })

def work (deliver : Deliverer σ) (policy : RetryPolicy) : Pool.Work Parcel (Option DeliveryFailure) (Desk σ) where
  enter d := d
  move := deliver.move policy

def parcels (items : List Item) : List Parcel := items.zipIdx.map fun x => { place := x.2, item := x.1 }

/-- What delivering the items with so many workers may end with: the report, and what the workers leave. -/
inductive Delivers (deliver : Deliverer σ) (policy : RetryPolicy) (workers : Workers) (items : List Item) (s : σ) :
    DeliveryReport → Desk σ → Prop
  | done {p : Pool Parcel (Option DeliveryFailure) (Desk σ)} :
      Pool.Reach (deliver.work policy) workers.count (parcels items) { state := s } p → p.Done →
      Delivers deliver policy workers items s (.ofOutcomes p.results) p.shared

end Deliverer

end MarkerScan
