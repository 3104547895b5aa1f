import Mathlib.Data.String.Basic
import MarkerScan.Json.Basic
/-
  MarkerScan.Proofs.Json.Basic — objects that are made field by field.

  Setting a field changes what is found under its key and nothing else (`lookup_setField`).
  So of all fields with a key the last one is found (`field?_ofFields`).
-/

namespace MarkerScan.Json

variable {α : Type}

theorem lookup_cons (k : String) (f : String × α) (fields : List (String × α)) :
    (f :: fields).lookup k = if k = f.1 then some f.2 else fields.lookup k := by
  rw [List.lookup_cons]
  by_cases h : k = f.1
  · simp [h]
  · rw [if_neg h, beq_false_of_ne h]

theorem lookup_setField (key k : String) (value : α) (fields : List (String × α)) :
    (setField key value fields).lookup k = if k = key then some value else fields.lookup k := by
  induction fields with
  | nil => exact lookup_cons k (key, value) []
  | cons f fields ih =>
    obtain ⟨k', v⟩ := f
    unfold setField
    split
    · exact lookup_cons k (key, value) _
    · split
      case isTrue hk =>
        subst hk
        rw [lookup_cons, lookup_cons]
        split <;> rfl
      case isFalse hk =>
        rw [lookup_cons, ih, lookup_cons]
        by_cases h : k = key
        · subst h
          rw [if_neg hk, if_pos rfl, if_pos rfl]
        · rw [if_neg h, if_neg h]

theorem field?_ofFields (key : String) (fields : List (String × Json)) :
    (ofFields fields).field? key = fields.reverse.lookup key := by
  have onto : ∀ sorted : List (String × Json),
      (fields.foldl (fun sorted f => setField f.1 f.2 sorted) sorted).lookup key =
        (fields.reverse.lookup key).or (sorted.lookup key) := by
    induction fields with
    | nil => intro sorted; rfl
    | cons f fields ih =>
      intro sorted
      rw [List.foldl_cons, ih, List.reverse_cons, List.lookup_append, Option.or_assoc, lookup_setField, lookup_cons]
      split <;> rfl
  exact (onto []).trans (Option.or_none ..)

/-! ## The order of keys -/

theorem mem_sortFields {fields : List (String × α)} {f : String × α} (h : f ∈ sortFields fields) : f ∈ fields := by
  have onto : ∀ sorted : List (String × α),
      f ∈ fields.foldl (fun sorted f => setField f.1 f.2 sorted) sorted → f ∈ fields ∨ f ∈ sorted := by
    clear h
    induction fields with
    | nil => exact fun sorted h => .inr h
    | cons g fields ih =>
      intro sorted h
      rcases ih _ h with h | h
      · exact .inl (List.mem_cons_of_mem _ h)
      · exact (mem_setField h).imp_left fun h => List.mem_cons.mpr (.inl h)
  exact (onto [] h).resolve_right List.not_mem_nil

theorem ordered_unique {fields : List (String × α)} (h : Ordered fields) {k : String} {a b : α}
    (ha : (k, a) ∈ fields) (hb : (k, b) ∈ fields) : a = b := by
  induction fields with
  | nil => cases ha
  | cons f fields ih =>
    obtain ⟨first, rest⟩ := List.pairwise_cons.mp h
    have later : ∀ c, f = (k, c) → ∀ d, (k, d) ∉ fields := fun c hf d hd => by
      have := first _ hd
      rw [hf] at this
      exact lt_irrefl k this
    rcases List.mem_cons.mp ha with ea | ha
    · rcases List.mem_cons.mp hb with eb | hb
      · exact (Prod.mk.inj (ea.trans eb.symm)).2
      · exact absurd hb (later a ea.symm b)
    · rcases List.mem_cons.mp hb with eb | hb
      · exact absurd ha (later b eb.symm a)
      · exact ih rest ha hb

end MarkerScan.Json
