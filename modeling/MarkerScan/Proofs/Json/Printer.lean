import MarkerScan.Proofs.Json.Basic
import MarkerScan.Proofs.Json.Number
/-
  MarkerScan.Proofs.Json.Printer — an indented text is read back as the value it was made from.

  What is read has the fields of its objects in the order of their keys, each key once
  (`keyed`). That is all that is lost: a string is read as it was before its characters were
  escaped (`stringBody_stringText`), and a value without floating point numbers, whose arrays
  and objects are not nested too deep (`Plain`), as that value in the order of its keys, at
  whatever depth it is written and whatever stands behind it (`readsBack_of_plain`). So for the
  text of a value (`parse?_pretty`).

  The reader needs no more fuel than the text has characters: each of its steps takes at least
  one of them.
-/

namespace MarkerScan.Json

/-! ## Strings -/

/-- The escape of a control character is read as that character. -/
theorem codeUnit?_control : ∀ n < 0x20,
    (hex4? '0' '0' (hexDigit (n / 16)) (hexDigit n)).bind (codeUnit? none) = some (some (Char.ofNat n), .plain) := by
  decide

theorem stringBody_escaped (c : Char) (read s : List Char) :
    stringBody .plain read (escaped c ++ s) = stringBody .plain (c :: read) s := by
  by_cases short : c ∈ ['"', '\\', '\n', '\r', '\t', '\x08', '\x0c']
  · simp only [List.mem_cons, List.not_mem_nil, or_false] at short
    rcases short with rfl | rfl | rfl | rfl | rfl | rfl | rfl <;> rfl
  · simp only [List.mem_cons, List.not_mem_nil, or_false, not_or] at short
    obtain ⟨quote, backslash, lf, cr, tab, back, feed⟩ := short
    rw [escaped, if_neg quote, if_neg backslash, if_neg lf, if_neg cr, if_neg tab, if_neg back, if_neg feed]
    by_cases control : c.toNat < 0x20
    · have unit := codeUnit?_control c.toNat control
      rw [Char.ofNat_toNat] at unit
      rw [if_pos control]
      simp only [List.cons_append, List.nil_append, stringBody, unit]
      simp
    · rw [if_neg control, List.singleton_append, stringBody]
      simp only [quote, backslash, control, if_false]

/-- A string is read up to its closing quote. -/
theorem stringBody_stringText (s : List Char) (read rest : List Char) :
    stringBody .plain read (s.flatMap escaped ++ '"' :: rest) = some (String.ofList (read.reverse ++ s), rest) := by
  induction s generalizing read with
  | nil => simp [stringBody]
  | cons c s ih =>
    rw [List.flatMap_cons, List.append_assoc, stringBody_escaped, ih]
    simp

/-! ## Values -/

mutual
/-- The value with the fields of every object in the order of their keys; of equal keys the last one counts. -/
def keyed : Json → Json
  | .null => .null
  | .bool b => .bool b
  | .number n => .number n
  | .string s => .string s
  | .array items => .array (keyedItems items)
  | .object fields => ofFields (keyedFields fields)
termination_by structural j => j

def keyedItems : List Json → List Json
  | [] => []
  | j :: rest => keyed j :: keyedItems rest
termination_by structural items => items

def keyedFields : List (String × Json) → List (String × Json)
  | [] => []
  | (k, v) :: rest => (k, keyed v) :: keyedFields rest
termination_by structural fields => fields
end

theorem keyedItems_eq (items : List Json) : keyedItems items = items.map keyed := by
  induction items with
  | nil => rfl
  | cons j items ih => rw [keyedItems, ih, List.map_cons]

theorem keyedFields_eq (fields : List (String × Json)) : keyedFields fields = fields.map fun f => (f.1, keyed f.2) := by
  induction fields with
  | nil => rfl
  | cons f fields ih => rw [keyedFields, ih, List.map_cons]

/-- No floating point numbers, and at most `n` arrays and objects inside one another. -/
inductive Plain : Nat → Json → Prop
  | null {n : Nat} : Plain n .null
  | bool {n : Nat} (b : Bool) : Plain n (.bool b)
  | number {n : Nat} {x : Num} : x.Whole → Plain n (.number x)
  | string {n : Nat} (s : String) : Plain n (.string s)
  | array {n : Nat} {items : List Json} : (∀ j ∈ items, Plain n j) → Plain (n + 1) (.array items)
  | object {n : Nat} {fields : List (String × Json)} : (∀ f ∈ fields, Plain n f.2) → Plain (n + 1) (.object fields)

/-! ### Spaces in front -/

theorem skipSpaces_append {gap : List Char} (h : ∀ c ∈ gap, isSpace c = true) (s : List Char) :
    skipSpaces (gap ++ s) = skipSpaces s := List.dropWhile_append_of_pos h

theorem skipSpaces_cons {c : Char} (h : isSpace c = false) (s : List Char) : skipSpaces (c :: s) = c :: s := by
  rw [skipSpaces, List.dropWhile_cons, h]
  rfl

theorem isSpace_newline (depth : Nat) : ∀ c ∈ newline depth, isSpace c = true := by
  intro c hc
  rcases List.mem_cons.mp hc with rfl | hc
  · decide
  · rw [List.eq_of_mem_replicate hc]
    decide

section
variable {gap : List Char} (h : ∀ c ∈ gap, isSpace c = true) (fuel depth : Nat) (s : List Char)
include h

theorem value?_append : value? fuel depth (gap ++ s) = value? fuel depth s := by
  cases fuel with
  | zero => rfl
  | succ fuel => rw [value?, value?, skipSpaces_append h]

theorem items?_append (read : List Json) : items? fuel depth read (gap ++ s) = items? fuel depth read s := by
  cases fuel with
  | zero => rfl
  | succ fuel => rw [items?, items?, value?_append h]

theorem fields?_append (read : List (String × Json)) : fields? fuel depth read (gap ++ s) = fields? fuel depth read s := by
  cases fuel with
  | zero => rfl
  | succ fuel => rw [fields?, fields?, skipSpaces_append h]

end

theorem value?_space (fuel depth : Nat) (s : List Char) : value? fuel depth (' ' :: s) = value? fuel depth s :=
  value?_append (List.forall_mem_singleton.mpr rfl) fuel depth s

/-! ### One step of the reader -/

section
variable (fuel depth : Nat) (s : List Char)

theorem value?_string : value? (fuel + 1) depth ('"' :: s) =
    (stringBody .plain [] s).map fun r => (.string r.1, r.2) := rfl

theorem value?_array {c : Char} {t : List Char} (h : skipSpaces s = c :: t) (hc : c ≠ ']') :
    value? (fuel + 1) (depth + 2) ('[' :: s) = items? fuel (depth + 1) [] (c :: t) := by
  rw [value?, skipSpaces_cons (by decide)]
  simp only [h]
  split
  · rename_i e
    exact absurd (List.cons.inj e).1 hc
  · rfl

theorem value?_object {c : Char} {t : List Char} (h : skipSpaces s = c :: t) (hc : c ≠ '}') :
    value? (fuel + 1) (depth + 2) ('{' :: s) = fields? fuel (depth + 1) [] (c :: t) := by
  rw [value?, skipSpaces_cons (by decide)]
  simp only [h]
  split
  · rename_i e
    exact absurd (List.cons.inj e).1 hc
  · rfl

/-- A digit or a minus is none of the characters that stand for anything else. -/
theorem ne_of_startsNumber {c d : Char} (h : c.isDigit = true ∨ c = '-') (digit : d.isDigit = false) (minus : d ≠ '-') :
    c ≠ d := by
  rintro rfl
  rcases h with h | h
  · rw [digit] at h
    cases h
  · exact minus h

theorem isSpace_of_startsNumber {c : Char} (h : c.isDigit = true ∨ c = '-') : isSpace c = false := by
  have other {d : Char} := ne_of_startsNumber h (d := d)
  simp [isSpace, other (d := ' ') rfl (by decide), other (d := '\t') rfl (by decide), other (d := '\n') rfl (by decide),
    other (d := '\r') rfl (by decide)]

theorem value?_number {c : Char} (h : c.isDigit = true ∨ c = '-') :
    value? (fuel + 1) depth (c :: s) = (number? (c :: s)).map fun r => (.number r.1, r.2) := by
  rw [value?, skipSpaces_cons (isSpace_of_startsNumber h)]
  split
  case h_1 e => cases e
  case h_8 => rfl
  all_goals
    rename_i e
    exact absurd (List.cons.inj e).1 (ne_of_startsNumber h rfl (by decide))

end

section
variable {fuel depth : Nat} {s rest more : List Char} {v : Json}

theorem items?_more {read : List Json} (hv : value? fuel depth s = some (v, rest)) (h : skipSpaces rest = ',' :: more) :
    items? (fuel + 1) depth read s = items? fuel depth (v :: read) more := by
  rw [items?, hv]
  simp only [h]

theorem items?_last {read : List Json} (hv : value? fuel depth s = some (v, rest)) (h : skipSpaces rest = ']' :: more) :
    items? (fuel + 1) depth read s = some (.array (v :: read).reverse, more) := by
  rw [items?, hv]
  simp only [h]

theorem fields?_more {read : List (String × Json)} {key : List Char}
    (hv : value? fuel depth s = some (v, rest)) (h : skipSpaces rest = ',' :: more) :
    fields? (fuel + 1) depth read ('"' :: (key.flatMap escaped ++ '"' :: ':' :: s)) =
      fields? fuel depth ((String.ofList key, v) :: read) more := by
  rw [fields?, skipSpaces_cons (by decide)]
  simp only [stringBody_stringText, List.reverse_nil, List.nil_append]
  rw [skipSpaces_cons (by decide)]
  simp only [hv, h]

theorem fields?_last {read : List (String × Json)} {key : List Char}
    (hv : value? fuel depth s = some (v, rest)) (h : skipSpaces rest = '}' :: more) :
    fields? (fuel + 1) depth read ('"' :: (key.flatMap escaped ++ '"' :: ':' :: s)) =
      some (ofFields ((String.ofList key, v) :: read).reverse, more) := by
  rw [fields?, skipSpaces_cons (by decide)]
  simp only [stringBody_stringText, List.reverse_nil, List.nil_append]
  rw [skipSpaces_cons (by decide)]
  simp only [hv, h]

end

/-! ### What is written is read -/

/-- The text of the value is read back wherever it stands. -/
def ReadsBack (n : Nat) (j : Json) : Prop :=
  ∀ (level fuel depth : Nat) (rest : List Char), (prettyText level j).length ≤ fuel → n < depth → NumberEnds rest →
    value? (fuel + 1) depth (prettyText level j ++ rest) = some (keyed j, rest)

/-- With fuel for its text and more. -/
theorem ReadsBack.value {n : Nat} {j : Json} (h : ReadsBack n j) {level fuel depth : Nat} {more rest : List Char}
    (hf : (prettyText level j ++ more).length ≤ fuel) (hn : n < depth) (hr : NumberEnds (more ++ rest)) :
    value? (fuel + 1) depth (prettyText level j ++ (more ++ rest)) = some (keyed j, more ++ rest) := by
  rw [List.length_append] at hf
  exact h level fuel depth _ (by omega) hn hr

/-- A value starts with no space and does not close an array. -/
theorem prettyText_head {n : Nat} {j : Json} (h : Plain n j) (level : Nat) :
    ∃ c t, prettyText level j = c :: t ∧ isSpace c = false ∧ c ≠ ']' := by
  cases h with
  | null => exact ⟨_, _, rfl, by decide, by decide⟩
  | bool b => cases b <;> exact ⟨_, _, rfl, by decide, by decide⟩
  | string s => exact ⟨_, _, rfl, by decide, by decide⟩
  | array _ => exact ⟨_, _, rfl, by decide, by decide⟩
  | object _ => exact ⟨_, _, rfl, by decide, by decide⟩
  | number hx =>
    obtain ⟨c, t, ht, hc⟩ := Num.text_head hx
    exact ⟨c, t, ht, isSpace_of_startsNumber hc, ne_of_startsNumber hc rfl (by decide)⟩

theorem prettyItems_first (level : Nat) (j : Json) (items : List Json) :
    prettyItems level true (j :: items) =
      newline (level + 1) ++ (prettyText (level + 1) j ++ prettyItems level false items) := by
  simp [prettyItems]

theorem prettyItems_next (level : Nat) (j : Json) (items : List Json) :
    prettyItems level false (j :: items) =
      ',' :: (newline (level + 1) ++ (prettyText (level + 1) j ++ prettyItems level false items)) := by
  simp [prettyItems]

theorem prettyFields_first (level : Nat) (k : String) (v : Json) (fields : List (String × Json)) :
    prettyFields level true ((k, v) :: fields) = newline (level + 1) ++ ('"' :: (k.toList.flatMap escaped ++
      '"' :: ':' :: ' ' :: (prettyText (level + 1) v ++ prettyFields level false fields))) := by
  simp [prettyFields, stringText]

theorem prettyFields_next (level : Nat) (k : String) (v : Json) (fields : List (String × Json)) :
    prettyFields level false ((k, v) :: fields) = ',' :: (newline (level + 1) ++ ('"' :: (k.toList.flatMap escaped ++
      '"' :: ':' :: ' ' :: (prettyText (level + 1) v ++ prettyFields level false fields)))) := by
  simp [prettyFields, stringText]

theorem numberEnds_prettyItems (level : Nat) (items : List Json) (rest : List Char) :
    NumberEnds (prettyItems level false items ++ rest) := by
  cases items <;> exact numberEnds_cons.mpr (by decide)

theorem numberEnds_prettyFields (level : Nat) (fields : List (String × Json)) (rest : List Char) :
    NumberEnds (prettyFields level false fields ++ rest) := by
  cases fields <;> exact numberEnds_cons.mpr (by decide)

theorem skipSpaces_close {c : Char} (hc : isSpace c = false) (level : Nat) (rest : List Char) :
    skipSpaces (newline level ++ [c] ++ rest) = c :: rest := by
  rw [List.append_assoc, skipSpaces_append (isSpace_newline level), List.singleton_append, skipSpaces_cons hc]

/-- The items of an array from the next one on are read back. -/
theorem items?_prettyItems {n depth : Nat} (hn : n < depth) (level : Nat) (rest : List Char) {items : List Json}
    {j : Json} (read : List Json) {fuel : Nat} (h : ∀ i ∈ j :: items, ReadsBack n i)
    (hf : (prettyText (level + 1) j ++ prettyItems level false items).length ≤ fuel) :
    items? (fuel + 2) depth read (prettyText (level + 1) j ++ (prettyItems level false items ++ rest)) =
      some (.array (read.reverse ++ keyedItems (j :: items)), rest) := by
  induction items generalizing j read fuel with
  | nil =>
    have value := (h j List.mem_cons_self).value hf hn (numberEnds_prettyItems level [] rest)
    rw [items?_last value (skipSpaces_close (by decide) level rest), List.reverse_cons]
    rfl
  | cons i items ih =>
    have value := (h j List.mem_cons_self).value hf hn (numberEnds_prettyItems level (i :: items) rest)
    have comma : skipSpaces (prettyItems level false (i :: items) ++ rest) =
        ',' :: (newline (level + 1) ++ (prettyText (level + 1) i ++ (prettyItems level false items ++ rest))) := by
      rw [prettyItems_next, List.cons_append, skipSpaces_cons (by decide), List.append_assoc, List.append_assoc]
    have behind : ∀ k ∈ i :: items, ReadsBack n k := fun k hk => h k (List.mem_cons_of_mem _ hk)
    rw [prettyItems_next, List.length_append, List.length_cons, List.length_append] at hf
    obtain ⟨fuel, rfl⟩ : ∃ f, fuel = f + 1 := ⟨fuel - 1, by omega⟩
    rw [items?_more value comma, items?_append (isSpace_newline _), ih (keyed j :: read) behind (by omega),
      List.reverse_cons, List.append_assoc]
    rfl

/-- The fields of an object from the next one on are read back. -/
theorem fields?_prettyFields {n depth : Nat} (hn : n < depth) (level : Nat) (rest : List Char)
    {fields : List (String × Json)} {k : String} {v : Json} (read : List (String × Json)) {fuel : Nat}
    (h : ∀ f ∈ (k, v) :: fields, ReadsBack n f.2)
    (hf : (prettyText (level + 1) v ++ prettyFields level false fields).length ≤ fuel) :
    fields? (fuel + 2) depth read ('"' :: (k.toList.flatMap escaped ++
        '"' :: ':' :: ' ' :: (prettyText (level + 1) v ++ (prettyFields level false fields ++ rest)))) =
      some (ofFields (read.reverse ++ keyedFields ((k, v) :: fields)), rest) := by
  induction fields generalizing k v read fuel with
  | nil =>
    have value := (value?_space ..).trans
      ((h (k, v) List.mem_cons_self).value hf hn (numberEnds_prettyFields level [] rest))
    rw [fields?_last value (skipSpaces_close (by decide) level rest), List.reverse_cons, String.ofList_toList]
    rfl
  | cons f fields ih =>
    obtain ⟨k', v'⟩ := f
    have value := (value?_space ..).trans
      ((h (k, v) List.mem_cons_self).value hf hn (numberEnds_prettyFields level ((k', v') :: fields) rest))
    have comma : skipSpaces (prettyFields level false ((k', v') :: fields) ++ rest) =
        ',' :: (newline (level + 1) ++ ('"' :: (k'.toList.flatMap escaped ++
          '"' :: ':' :: ' ' :: (prettyText (level + 1) v' ++ (prettyFields level false fields ++ rest))))) := by
      rw [prettyFields_next, List.cons_append, skipSpaces_cons (by decide)]
      simp only [List.append_assoc, List.cons_append]
    have behind : ∀ g ∈ (k', v') :: fields, ReadsBack n g.2 := fun g hg => h g (List.mem_cons_of_mem _ hg)
    rw [prettyFields_next] at hf
    simp only [List.length_append, List.length_cons] at hf
    obtain ⟨fuel, rfl⟩ : ∃ f, fuel = f + 1 := ⟨fuel - 1, by omega⟩
    have left : (prettyText (level + 1) v' ++ prettyFields level false fields).length ≤ fuel := by
      rw [List.length_append]
      omega
    rw [fields?_more value comma, fields?_append (isSpace_newline _),
      ih ((String.ofList k.toList, keyed v) :: read) behind left, List.reverse_cons, List.append_assoc,
      String.ofList_toList]
    rfl

theorem readsBack_array {n : Nat} {items : List Json} (h : ∀ j ∈ items, Plain n j) (ih : ∀ j ∈ items, ReadsBack n j) :
    ReadsBack (n + 1) (.array items) := by
  intro level fuel depth rest hf hn _
  obtain ⟨depth, rfl⟩ : ∃ d, depth = d + 2 := ⟨depth - 2, by omega⟩
  cases items with
  | nil => rfl
  | cons j items =>
    show value? (fuel + 1) (depth + 2) ('[' :: (prettyItems level true (j :: items) ++ rest)) = _
    obtain ⟨c, t, ht, hc, close⟩ := prettyText_head (h j List.mem_cons_self) (level + 1)
    have first : skipSpaces (prettyItems level true (j :: items) ++ rest) =
        c :: (t ++ (prettyItems level false items ++ rest)) := by
      rw [prettyItems_first, List.append_assoc, skipSpaces_append (isSpace_newline _), ht, List.append_assoc,
        List.cons_append, skipSpaces_cons hc]
    rw [prettyText, List.length_cons, prettyItems_first, newline, List.length_append, List.length_cons] at hf
    obtain ⟨fuel, rfl⟩ : ∃ f, fuel = f + 2 := ⟨fuel - 2, by omega⟩
    rw [value?_array _ _ _ first close, ← List.cons_append, ← ht,
      items?_prettyItems (show n < depth + 1 by omega) level rest [] ih (by omega)]
    rfl

theorem readsBack_object {n : Nat} {fields : List (String × Json)} (ih : ∀ f ∈ fields, ReadsBack n f.2) :
    ReadsBack (n + 1) (.object fields) := by
  intro level fuel depth rest hf hn _
  obtain ⟨depth, rfl⟩ : ∃ d, depth = d + 2 := ⟨depth - 2, by omega⟩
  cases fields with
  | nil => rfl
  | cons f fields =>
    obtain ⟨k, v⟩ := f
    show value? (fuel + 1) (depth + 2) ('{' :: (prettyFields level true ((k, v) :: fields) ++ rest)) = _
    have first : skipSpaces (prettyFields level true ((k, v) :: fields) ++ rest) = '"' :: (k.toList.flatMap escaped ++
        '"' :: ':' :: ' ' :: (prettyText (level + 1) v ++ (prettyFields level false fields ++ rest))) := by
      rw [prettyFields_first, List.append_assoc, skipSpaces_append (isSpace_newline _), List.cons_append,
        skipSpaces_cons (by decide)]
      simp only [List.append_assoc, List.cons_append]
    rw [prettyText, prettyFields_first] at hf
    simp only [List.length_append, List.length_cons] at hf
    obtain ⟨fuel, rfl⟩ : ∃ f, fuel = f + 2 := ⟨fuel - 2, by omega⟩
    have left : (prettyText (level + 1) v ++ prettyFields level false fields).length ≤ fuel := by
      rw [List.length_append]
      omega
    rw [value?_object _ _ _ first (by decide),
      fields?_prettyFields (show n < depth + 1 by omega) level rest [] ih left]
    rfl

/-- Every plain value is read back in the order of its keys. -/
theorem readsBack_of_plain {n : Nat} {j : Json} (h : Plain n j) : ReadsBack n j := by
  induction h with
  | null => exact fun _ _ _ _ _ _ _ => rfl
  | bool b => cases b <;> exact fun _ _ _ _ _ _ _ => rfl
  | @number n x hx =>
    intro level fuel depth rest _ _ hr
    obtain ⟨c, s, ht, hc⟩ := Num.text_head hx
    have read := number?_text hx hr
    rw [ht, List.cons_append] at read
    rw [prettyText, ht, List.cons_append, value?_number _ _ _ hc, read]
    rfl
  | string s =>
    intro level fuel depth rest _ _ _
    have read := stringBody_stringText s.toList [] rest
    rw [List.reverse_nil, List.nil_append, String.ofList_toList] at read
    rw [prettyText, stringText, List.cons_append, value?_string, List.append_assoc, List.singleton_append, read]
    rfl
  | array hitems ih => exact readsBack_array hitems ih
  | object _ ih => exact readsBack_object ih

/-- A text is read as the value it was made from, in the order of its keys. -/
theorem parse?_pretty {n : Nat} {j : Json} (h : Plain n j) (hn : n < 128) : parse? (pretty j).toList = some (keyed j) := by
  have enough : (prettyText 0 j).length ≤ 2 * (prettyText 0 j).length + 1 := by omega
  have read := readsBack_of_plain h _ _ 128 [] enough hn numberEnds_nil
  rw [List.append_nil] at read
  rw [pretty, String.toList_ofList, parse?, fuelFor, read]
  rfl

end MarkerScan.Json
