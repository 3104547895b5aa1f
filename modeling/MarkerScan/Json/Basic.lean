import MarkerScan.Number.Binary64
/-
  MarkerScan.Json.Basic — JSON values.

  A number keeps what its text said: a whole number below 2^64, a negative one down to
  -2^63, or a floating point number. An object is a list of fields; `ofFields` puts them
  in the order of their keys, and the last of several fields with one key wins, so each
  key is there once (`ordered_sortFields`).
-/

namespace MarkerScan

inductive Json.Num where
  | whole (n : UInt64)
  /-- A number below zero. -/
  | below (n : Int64)
  | real (x : Number.Binary64)
  deriving DecidableEq, Repr

inductive Json where
  | null
  | bool (b : Bool)
  | number (n : Json.Num)
  | string (s : String)
  | array (items : List Json)
  | object (fields : List (String × Json))
  deriving Repr

namespace Json

instance : Inhabited Json := ⟨.null⟩

def text (s : List Char) : Json := .string (String.ofList s)

/-- A whole number. It is taken modulo 2^64. -/
def ofNat (n : Nat) : Json := .number (.whole (UInt64.ofNat n))

/-- `null` for what is not there. -/
def ofOption {α : Type} (f : α → Json) : Option α → Json
  | some a => f a
  | none => .null

/-! ## Fields in the order of their keys -/

section
variable {α : Type}

/-- The keys are in order, each of them once. -/
def Ordered (fields : List (String × α)) : Prop := fields.Pairwise (·.1 < ·.1)

instance (fields : List (String × α)) : Decidable (Ordered fields) :=
  inferInstanceAs (Decidable (fields.Pairwise (·.1 < ·.1)))

/-- Sets the field `key` in a list of fields in the order of their keys. -/
def setField (key : String) (value : α) : List (String × α) → List (String × α)
  | [] => [(key, value)]
  | (k, v) :: rest =>
    if key < k then (key, value) :: (k, v) :: rest
    else if key = k then (key, value) :: rest
    else (k, v) :: setField key value rest

/-- The fields in the order of their keys. -/
def sortFields (fields : List (String × α)) : List (String × α) :=
  fields.foldl (fun sorted f => setField f.1 f.2 sorted) []

theorem mem_setField {key : String} {value : α} {fields : List (String × α)} {f : String × α}
    (h : f ∈ setField key value fields) : f = (key, value) ∨ f ∈ fields := by
  induction fields with
  | nil => exact .inl (List.mem_singleton.mp h)
  | cons g fields ih =>
    obtain ⟨k, v⟩ := g
    unfold setField at h
    split at h
    · exact List.mem_cons.mp h
    · split at h
      · exact (List.mem_cons.mp h).imp_right (List.mem_cons_of_mem _)
      · rcases List.mem_cons.mp h with h | h
        · exact .inr (h ▸ List.mem_cons_self ..)
        · exact (ih h).imp_right (List.mem_cons_of_mem _)

theorem ordered_setField (key : String) (value : α) {fields : List (String × α)} (h : Ordered fields) :
    Ordered (setField key value fields) := by
  induction fields with
  | nil => exact List.pairwise_singleton _ _
  | cons g fields ih =>
    obtain ⟨k, v⟩ := g
    obtain ⟨first, rest⟩ := List.pairwise_cons.mp h
    unfold setField
    split
    case isTrue hlt =>
      refine List.pairwise_cons.mpr ⟨fun f hf => ?_, h⟩
      rcases List.mem_cons.mp hf with hf | hf
      · rw [hf]
        exact hlt
      · exact String.lt_trans hlt (first f hf)
    case isFalse hlt =>
      split
      case isTrue hk => exact List.pairwise_cons.mpr ⟨fun f hf => hk ▸ first f hf, rest⟩
      case isFalse hk =>
        have behind : k < key := String.not_le.mp fun hle => hk (String.le_antisymm hle (String.not_lt.mp hlt))
        refine List.pairwise_cons.mpr ⟨fun f hf => ?_, ih rest⟩
        rcases mem_setField hf with hf | hf
        · rw [hf]
          exact behind
        · exact first f hf

theorem ordered_sortFields (fields : List (String × α)) : Ordered (sortFields fields) := by
  have onto : ∀ sorted : List (String × α), Ordered sorted →
      Ordered (fields.foldl (fun sorted f => setField f.1 f.2 sorted) sorted) := by
    induction fields with
    | nil => exact fun sorted h => h
    | cons f fields ih => exact fun sorted h => ih _ (ordered_setField f.1 f.2 h)
  exact onto [] List.Pairwise.nil

end

/-- The object with these fields, in the order of their keys. -/
def ofFields (fields : List (String × Json)) : Json := .object (sortFields fields)

def field? (key : String) : Json → Option Json
  | .object fields => fields.lookup key
  | _ => none

end Json

end MarkerScan
