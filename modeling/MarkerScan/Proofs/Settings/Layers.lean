import MarkerScan.Proofs.Json.Basic
import MarkerScan.Settings.Layers
/-
  MarkerScan.Proofs.Settings.Layers — what stands under a key after a file was laid over.

  Putting a field into a table changes what stands under its key and nothing else
  (`lookup_put`), and so does laying a value over it (`lookup_layIn`). When the keys of a
  table are different, each of its values is laid over what was there before
  (`lookup_layFields`); and when the keys of a file are no paths, laying the file over a
  table is that (`lay_plain`).
-/

namespace MarkerScan.Settings

namespace Value

/-! ## Fields of a table -/

theorem lookup_putField (key k : String) (v : Value) (fields : List (String × Value)) :
    (putField key v fields).lookup k = if k = key then some v else fields.lookup k := by
  induction fields with
  | nil => exact Json.lookup_cons k (key, v) []
  | cons e fields ih =>
    obtain ⟨k', w⟩ := e
    unfold putField
    split
    case isTrue hkey =>
      subst hkey
      rw [Json.lookup_cons, Json.lookup_cons]
      split <;> rfl
    case isFalse hkey =>
      rw [Json.lookup_cons, ih, Json.lookup_cons]
      by_cases hk : k = key
      · subst hk
        rw [if_neg (Ne.symm hkey), if_pos rfl, if_pos rfl]
      · rw [if_neg hk, if_neg hk]

theorem lookup_put (t : Value) (key k : String) (v : Value) :
    (t.put key v).fields.lookup k = if k = key then some v else t.fields.lookup k := by
  cases t with
  | table o fields => exact lookup_putField key k v fields
  | scalar o s => exact lookup_putField key k v []
  | list o items => exact lookup_putField key k v []

def isTable : Value → Bool
  | .table _ _ => true
  | _ => false

theorem isTable_put (t : Value) (key : String) (v : Value) : (t.put key v).isTable = true := by
  cases t <;> rfl

/-! ## Laying over -/

/-- What a value becomes over what was there: the fields of a table go into it, anything else replaces it. -/
def laid (old : Option Value) : Value → Value
  | .table _ incoming => layFields (old.getD emptyTable) incoming
  | v => v

theorem layIn_eq (t : Value) (key : String) (v : Value) : t.layIn key v = t.put key (laid (t.fields.lookup key) v) := by
  cases v <;> rfl

theorem laid_of_single {v : Value} (h : v.isTable = false) (old : Option Value) : laid old v = v := by
  cases v with
  | table => cases h
  | scalar | list => rfl

theorem lookup_layIn (t : Value) (key k : String) (v : Value) :
    (t.layIn key v).fields.lookup k = if k = key then some (laid (t.fields.lookup key) v) else t.fields.lookup k := by
  rw [layIn_eq, lookup_put]

/-- A table that was laid over another one has changed what stands under its own keys, and nothing else. -/
theorem lookup_layFields {incoming : List (String × Value)} (h : (incoming.map (·.1)).Nodup) (t : Value) (k : String) :
    (layFields t incoming).fields.lookup k =
      ((incoming.lookup k).map (laid (t.fields.lookup k))).or (t.fields.lookup k) := by
  induction incoming generalizing t with
  | nil => rfl
  | cons e incoming ih =>
    obtain ⟨key, v⟩ := e
    obtain ⟨once, rest⟩ := List.nodup_cons.mp h
    rw [layFields, ih rest, lookup_layIn, Json.lookup_cons]
    by_cases hk : k = key
    · subst hk
      -- The keys are different, so no later entry changes what now stands under this one.
      have last : incoming.lookup k = none := List.lookup_eq_none_iff.mpr fun p hp => by
        rw [bne_iff_ne]
        rintro rfl
        exact once (List.mem_map.mpr ⟨p, hp, rfl⟩)
      rw [last, if_pos rfl, if_pos rfl]
      rfl
    · rw [if_neg hk, if_neg hk]

theorem isTable_layFields {t : Value} (h : t.isTable = true) (incoming : List (String × Value)) :
    (layFields t incoming).isTable = true := by
  induction incoming generalizing t with
  | nil => exact h
  | cons e incoming ih =>
    rw [layFields, layIn_eq]
    exact ih (isTable_put _ _ _)

end Value

/-! ## Keys that are names -/

/-- A key that is no path: without dots and brackets. -/
def Plain (key : String) : Prop := '.' ∉ key.toList ∧ '[' ∉ key.toList

instance (key : String) : Decidable (Plain key) := inferInstanceAs (Decidable (_ ∧ _))

theorem steps?_eq_none {c : Char} (dot : c ≠ '.') (bracket : c ≠ '[') (fuel : Nat) (s : List Char) :
    steps? fuel (c :: s) = none := by
  cases fuel with
  | zero => rfl
  | succ fuel =>
    unfold steps?
    split <;> simp_all

theorem path_plain {key : String} (h : Plain key) : path key = (key, []) := by
  have whole := List.takeWhile_append_dropWhile (p := isPathChar) (l := key.toList)
  cases hrest : key.toList.dropWhile isPathChar with
  | nil =>
    rw [hrest, List.append_nil] at whole
    simp only [path, hrest, whole, String.ofList_toList]
    unfold steps?
    exact ite_self _
  | cons c rest =>
    have hc : c ∈ key.toList := by
      rw [← whole, hrest]
      simp
    have dot : c ≠ '.' := fun he => h.1 (he ▸ hc)
    have bracket : c ≠ '[' := fun he => h.2 (he ▸ hc)
    simp only [path, hrest, steps?_eq_none dot bracket]

theorem lay_plain {file : Value} (h : ∀ e ∈ file.fields, Plain e.1) (t : Value) :
    lay t file = Value.layFields t file.fields := by
  unfold lay
  generalize file.fields = entries at h
  induction entries generalizing t with
  | nil => rfl
  | cons e entries ih =>
    rw [List.foldl_cons, ih _ fun x hx => h x (List.mem_cons_of_mem _ hx), Value.layFields, layEntry,
      path_plain (h e List.mem_cons_self)]

end MarkerScan.Settings
