import MarkerScan.Proofs.Marker.Metadata
import MarkerScan.Proofs.Text.Lines
import MarkerScan.Report.Rendering
/-
  MarkerScan.Proofs.Report.Csv — rows of fields are read back as they were written.

  `rows?` reads a text of rows, one character after the other. A field stands in quotes or
  without them. In quotes every character counts, and a quote is written twice; without them
  a comma ends the field, and a line feed, or a carriage return and a line feed, the row.
  The last row may end with the text. A quote inside a field that stands in none, any other
  character behind the quotes, a carriage return alone and a quote that is never closed make
  the text no text of rows. `item?` is the item of a row.

  Proved:
  - `steps_field` / `steps_row`: what one field and what one row do to the reading.
  - `rows?_written`: so any rows of at least one field each are read back.
  - `item?_fields`: the item of a row is the one it was made from, if what is set in it is not
    empty and no tag holds a semicolon; every item found in a text is such an item
    (`filled_of_mem_items`).
  - `csv_reads_back`: together, for the text of a list of items.
-/

namespace MarkerScan.Report.Csv

open Text

/-! ## Reading rows -/

/-- Where reading stands in a field. -/
inductive Place where
  | start
  /-- In a field without quotes. -/
  | plain
  /-- In quotes. -/
  | quoted
  /-- Behind a quote in quotes, which closes the field unless another one follows. -/
  | quote
  /-- Behind a carriage return, which ends the row if a line feed follows. -/
  | carriageReturn
  deriving DecidableEq, Repr

structure Reading where
  place : Place
  /-- What was read of the field. -/
  field : List Char
  /-- The fields before it in the row. -/
  row : List (List Char)
  /-- The rows before. -/
  rows : List (List (List Char))
  deriving DecidableEq, Repr

namespace Reading

def add (r : Reading) (place : Place) (c : Char) : Reading := { r with place, field := r.field ++ [c] }

def endField (r : Reading) : Reading := ⟨.start, [], r.row ++ [r.field], r.rows⟩

def endRow (r : Reading) : Reading := ⟨.start, [], [], r.rows ++ [r.row ++ [r.field]]⟩

/-- A character that ends a field or a row, if it does. -/
def end? (r : Reading) (c : Char) : Option Reading :=
  if c = ',' then some r.endField
  else if c = '\n' then some r.endRow
  else if c = '\r' then some { r with place := .carriageReturn }
  else none

def step (r : Reading) (c : Char) : Option Reading :=
  match r.place with
  | .start => if c = '"' then some { r with place := .quoted } else (r.end? c).or (some (r.add .plain c))
  | .plain => if c = '"' then none else (r.end? c).or (some (r.add .plain c))
  | .quoted => if c = '"' then some { r with place := .quote } else some (r.add .quoted c)
  | .quote => if c = '"' then some (r.add .quoted c) else r.end? c
  | .carriageReturn => if c = '\n' then some r.endRow else none

/-- The rows, when the text ends here. -/
def finish? (r : Reading) : Option (List (List (List Char))) :=
  match r.place with
  | .start => if r.row = [] then some r.rows else some r.endRow.rows
  | .plain | .quote => some r.endRow.rows
  | .quoted | .carriageReturn => none

end Reading

/-- The rows of a text, if it is a text of rows. -/
def rows? (s : List Char) : Option (List (List (List Char))) :=
  (s.foldlM Reading.step ⟨.start, [], [], []⟩).bind Reading.finish?

/-- A number in decimal digits. -/
def number? (s : List Char) : Option Nat :=
  if s ≠ [] ∧ s.all Char.isDigit then some (Nat.ofDigitChars 10 s 0) else none

/-- A level by its name, or none for an empty field. -/
def priority? (s : List Char) : Option (Option Priority) :=
  if s = [] then some none else ([.high, .medium, .low].find? fun p => p.name.toList = s).map some

/-- The text of a field that may be empty. -/
def text? (s : List Char) : Option (List Char) := if s = [] then none else some s

/-- The item of a row. -/
def item? : List (List Char) → Option Item
  | [path, line, content, priority, assignee, tags] => do
    return {
      filePath := String.ofList path
      line := ← number? line
      content := String.ofList content
      priority := ← priority? priority
      assignee := (text? assignee).map String.ofList
      tags := (text? tags).map fun t => (split ';' t).map String.ofList }
  | _ => none

/-! ## What is written is read -/

theorem needsQuotes_cons (c : Char) (s : List Char) :
    needsQuotes (c :: s) = false ↔ (c ≠ ',' ∧ c ≠ '"' ∧ c ≠ '\r' ∧ c ≠ '\n') ∧ needsQuotes s = false := by
  simp [needsQuotes, and_assoc]

/-- Without quotes, a text that needs none is read as it stands. -/
theorem steps_plain {s : List Char} (h : needsQuotes s = false) (r : Reading) (hr : r.place = .plain) :
    s.foldlM Reading.step r = some { r with field := r.field ++ s } := by
  induction s generalizing r with
  | nil => simp
  | cons c s ih =>
    obtain ⟨⟨comma, quote, cr, lf⟩, hs⟩ := (needsQuotes_cons c s).mp h
    have first : r.step c = some (r.add .plain c) := by
      simp [Reading.step, Reading.end?, hr, comma, quote, cr, lf]
    rw [List.foldlM_cons, first]
    refine (ih hs (r.add .plain c) rfl).trans ?_
    simp [Reading.add, hr]

theorem doubled_cons (c : Char) (s : List Char) :
    doubled (c :: s) = (if c = '"' then ['"', '"'] else [c]) ++ doubled s := rfl

/-- In quotes, a text whose quotes are doubled is read as the text. -/
theorem steps_doubled (s : List Char) (r : Reading) (hr : r.place = .quoted) :
    (doubled s).foldlM Reading.step r = some { r with field := r.field ++ s } := by
  induction s generalizing r with
  | nil => simp [doubled]
  | cons c s ih =>
    have first : (if c = '"' then ['"', '"'] else [c]).foldlM Reading.step r = some (r.add .quoted c) := by
      by_cases hc : c = '"'
      · subst hc
        simp [Reading.step, hr, Reading.add]
      · simp [Reading.step, hr, hc]
    rw [doubled_cons, List.foldlM_append, first]
    refine (ih (r.add .quoted c) rfl).trans ?_
    simp [Reading.add, hr]

/-- A place at which the field may end. -/
def Place.ends : Place → Prop
  | .start | .plain | .quote => True
  | .quoted | .carriageReturn => False

/-- A field is read up to a place where it may end. -/
theorem steps_field (s : List Char) (row : List (List Char)) (rows : List (List (List Char))) :
    ∃ place : Place, place.ends ∧ (field s).foldlM Reading.step ⟨.start, [], row, rows⟩ = some ⟨place, s, row, rows⟩ := by
  unfold field
  cases h : needsQuotes s with
  | true =>
    refine ⟨.quote, trivial, ?_⟩
    rw [if_pos rfl, List.foldlM_cons]
    have opened : Reading.step ⟨.start, [], row, rows⟩ '"' = some ⟨.quoted, [], row, rows⟩ := rfl
    rw [opened]
    show (doubled s ++ ['"']).foldlM Reading.step _ = _
    rw [List.foldlM_append, steps_doubled s _ rfl]
    rfl
  | false =>
    rw [if_neg (by decide)]
    cases s with
    | nil => exact ⟨.start, trivial, rfl⟩
    | cons c s =>
      obtain ⟨⟨comma, quote, cr, lf⟩, hs⟩ := (needsQuotes_cons c s).mp h
      have first : Reading.step ⟨.start, [], row, rows⟩ c = some ⟨.plain, [c], row, rows⟩ := by
        simp [Reading.step, Reading.end?, Reading.add, comma, quote, cr, lf]
      refine ⟨.plain, trivial, ?_⟩
      rw [List.foldlM_cons, first]
      exact steps_plain hs _ rfl

theorem step_comma {place : Place} (h : place.ends) (s : List Char) (row : List (List Char))
    (rows : List (List (List Char))) :
    Reading.step ⟨place, s, row, rows⟩ ',' = some ⟨.start, [], row ++ [s], rows⟩ := by
  cases place <;> first | rfl | exact absurd h id

theorem step_lineFeed {place : Place} (h : place.ends) (s : List Char) (row : List (List Char))
    (rows : List (List (List Char))) :
    Reading.step ⟨place, s, row, rows⟩ '\n' = some ⟨.start, [], [], rows ++ [row ++ [s]]⟩ := by
  cases place <;> first | rfl | exact absurd h id

theorem row_single (s : List Char) : row [s] = field s ++ ['\n'] := by simp [row, List.intercalate]

theorem row_cons (s t : List Char) (fields : List (List Char)) :
    row (s :: t :: fields) = field s ++ ',' :: row (t :: fields) := by
  simp [row, List.intercalate]

/-- A row is read from wherever its first field starts. -/
theorem steps_row {fields : List (List Char)} (h : fields ≠ []) (before : List (List Char))
    (rows : List (List (List Char))) :
    (row fields).foldlM Reading.step ⟨.start, [], before, rows⟩ = some ⟨.start, [], [], rows ++ [before ++ fields]⟩ := by
  induction fields generalizing before with
  | nil => exact absurd rfl h
  | cons s fields ih =>
    obtain ⟨place, ends, read⟩ := steps_field s before rows
    cases fields with
    | nil =>
      rw [row_single, List.foldlM_append, read]
      exact congrArg (·.bind pure) (step_lineFeed ends s before rows)
    | cons t fields =>
      have rest := ih (List.cons_ne_nil t fields) (before ++ [s])
      rw [row_cons, List.foldlM_append, read]
      show Option.bind (Reading.step _ ',') _ = _
      rw [step_comma ends, Option.bind_some, rest, List.append_assoc]
      rfl

theorem steps_rows {rows : List (List (List Char))} (h : ∀ fields ∈ rows, fields ≠ [])
    (before : List (List (List Char))) :
    (rows.flatMap row).foldlM Reading.step ⟨.start, [], [], before⟩ = some ⟨.start, [], [], before ++ rows⟩ := by
  induction rows generalizing before with
  | nil => simp
  | cons fields rows ih =>
    rw [List.flatMap_cons, List.foldlM_append, steps_row (h fields List.mem_cons_self)]
    refine (ih (fun f hf => h f (List.mem_cons_of_mem _ hf)) _).trans ?_
    rw [List.append_assoc]
    rfl

/-- Rows of at least one field each are read back. -/
theorem rows?_written {rows : List (List (List Char))} (h : ∀ fields ∈ rows, fields ≠ []) :
    rows? (rows.flatMap row) = some rows := by
  rw [rows?, steps_rows h]
  rfl

/-! ## The item of a row -/

theorem number?_toDigits (n : Nat) : number? (Nat.toDigits 10 n) = some n := by
  have digits : (Nat.toDigits 10 n).all Char.isDigit = true :=
    List.all_eq_true.mpr fun c hc => Nat.isDigit_of_mem_toDigits (by decide) (by decide) hc
  rw [number?, if_pos ⟨Nat.toDigits_ne_nil, digits⟩, Nat.ofDigitChars_ten_toDigits]

theorem priority?_name (p : Option Priority) :
    priority? ((p.map fun p => p.name.toList).getD []) = some p := by
  rcases p with _ | _ | _ | _ <;> rfl

theorem text?_assignee {a : Option String} (h : a ≠ some "") :
    (text? ((a.map String.toList).getD [])).map String.ofList = a := by
  cases a with
  | none => rfl
  | some a =>
    have : a.toList ≠ [] := fun e => h (congrArg some (String.toList_eq_nil_iff.mp e))
    simp [text?, this]

/-- Tags are told apart again when they are not empty and hold no semicolon. -/
theorem text?_tags {tags : Option (List String)} (hne : tags ≠ some [])
    (h : ∀ ts ∈ tags, ∀ t ∈ ts, t ≠ "" ∧ ';' ∉ t.toList) :
    (text? ((tags.map fun ts => [';'].intercalate (ts.map String.toList)).getD [])).map
      (fun t => (split ';' t).map String.ofList) = tags := by
  cases tags with
  | none => rfl
  | some ts =>
    have some_tag : ts ≠ [] := fun e => hne (congrArg some e)
    have cut : split ';' (join ';' (ts.map String.toList)) = ts.map String.toList := by
      apply split_join (by simpa using some_tag)
      intro p hp
      obtain ⟨t, ht, rfl⟩ := List.mem_map.mp hp
      exact (h ts rfl t ht).2
    have filled : join ';' (ts.map String.toList) ≠ [] := by
      intro e
      obtain ⟨t, rest, rfl⟩ := List.exists_cons_of_ne_nil some_tag
      rw [e, split_nil, List.map_cons] at cut
      have : t.toList = [] := (List.cons.inj cut).1.symm
      exact (h _ rfl t List.mem_cons_self).1 (String.toList_eq_nil_iff.mp this)
    show (text? (join ';' (ts.map String.toList))).map _ = _
    rw [text?, if_neg filled, Option.map_some, cut, List.map_map]
    simp

theorem item?_fields {i : Item} (h : i.Filled) : item? (fields i) = some i := by
  simp only [fields, item?, number?_toDigits, priority?_name, text?_assignee h.assignee, text?_tags h.tags h.tag,
    String.ofList_toList]
  rfl

theorem mapM_item?_fields {items : List Item} (h : ∀ i ∈ items, i.Filled) :
    (items.map fields).mapM item? = some items := by
  induction items with
  | nil => rfl
  | cons i items ih =>
    rw [List.map_cons, List.mapM_cons, item?_fields (h i List.mem_cons_self),
      ih fun j hj => h j (List.mem_cons_of_mem _ hj)]
    rfl

/-! ## The text of a list of items -/

theorem text_eq (items : List Item) : text items = (header :: items.map fields).flatMap row := by
  rw [text, List.flatMap_cons, List.flatMap_map]

/-- The text of items is read as the row of names and one row of six fields for each item, from which the items
    come back. So the texts of different lists of items differ. -/
theorem csv_reads_back {items : List Item} (h : ∀ i ∈ items, i.Filled) (time : String) :
    (∃ rows, rows? (render time items .csv).toList = some (header :: rows) ∧ (∀ row ∈ rows, row.length = 6) ∧
      rows.length = items.length ∧ rows.mapM item? = some items) ∧
    ∀ others : List Item, (∀ i ∈ others, i.Filled) →
      render time others .csv = render time items .csv → others = items := by
  have read : ∀ items, rows? (render time items .csv).toList = some (header :: items.map fields) := by
    intro items
    show rows? (String.ofList (text items)).toList = _
    rw [String.toList_ofList, text_eq]
    apply rows?_written
    intro row hrow
    rcases List.mem_cons.mp hrow with rfl | hrow
    · exact List.cons_ne_nil _ _
    · obtain ⟨i, -, rfl⟩ := List.mem_map.mp hrow
      exact List.cons_ne_nil _ _
  refine ⟨⟨items.map fields, read items, ?_, List.length_map _, mapM_item?_fields h⟩, fun others ho same => ?_⟩
  · intro row hrow
    obtain ⟨i, -, rfl⟩ := List.mem_map.mp hrow
    rfl
  · have rows : some (header :: others.map fields) = some (header :: items.map fields) := by
      rw [← read others, ← read items, same]
    have back := mapM_item?_fields ho
    rw [(List.cons.inj (Option.some.inj rows)).2, mapM_item?_fields h] at back
    exact (Option.some.inj back).symm

/-- The items of a file with a comma, a quote and a line break in its name, which quote words and hold commas. -/
theorem csv_reads_back_awkward_names :
    let items := Marker.Recogniser.items ⟨["TODO".toList]⟩ "a,\"b\r\n.rs"
      "// TODO: H \"wire\", then @bob #ui #db\n// TODO:".toList
    (∀ i ∈ items, i.Filled) ∧ items.map (·.content) = ["[TODO] \"wire\", then", "[TODO] "] ∧
      ∃ rows, rows? (render "" items .csv).toList = some (header :: rows) ∧ rows.mapM item? = some items := by
  intro items
  have filled : ∀ i ∈ items, i.Filled := fun i hi => Marker.filled_of_mem_items hi
  obtain ⟨⟨rows, read, -, -, back⟩, -⟩ := csv_reads_back filled ""
  exact ⟨filled, by decide +kernel, rows, read, back⟩

end MarkerScan.Report.Csv
