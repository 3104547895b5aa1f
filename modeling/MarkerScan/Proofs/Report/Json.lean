import MarkerScan.Proofs.Json.Printer
import MarkerScan.Report.Rendering
/-
  MarkerScan.Proofs.Report.Json — the JSON text of a list of items is read back as the list.

  `Item.Gives` says what the fields of an object must be so that the object stands for an item:
  under each key its value, and nothing under the key of what is not set. Any such object, in
  whatever order its fields stand, is decoded as the item (`decode_of_gives`); the object that
  an item is written as, read back in the order of its keys, is one of them (`gives_keyed`).
  So the text of a list of items is read as an object of three fields, of which the last but
  one is decoded as the list (`json_reads_back`).
-/

namespace MarkerScan

open Json (ofNat ofFields keyed lookup_cons)

namespace Json

theorem lookup_of_mem {α : Type} {fields : List (String × α)} (h : Ordered fields) {f : String × α} (hf : f ∈ fields) :
    fields.lookup f.1 = some f.2 := by
  induction fields with
  | nil => cases hf
  | cons g fields ih =>
    obtain ⟨first, rest⟩ := List.pairwise_cons.mp h
    rw [lookup_cons]
    rcases List.mem_cons.mp hf with rfl | hf
    · rw [if_pos rfl]
    · rw [if_neg fun e => lt_irrefl f.1 (by have := first f hf; rwa [← e] at this), ih rest hf]

theorem faultOf_eq_none {α : Type} {decode : Decoder α} {j : Json} {a : α} (h : decode j = .ok a) :
    faultOf decode j = none := by
  rw [faultOf, h]

/-- A record is read from an object with each key once, if no rule finds a fault in the value of its key and
    every required key is there. -/
theorem record_of_sound {name : String} {rules : List FieldRule} {fields : Fields}
    (once : ∀ f ∈ fields, fields.lookup f.1 = some f.2)
    (sound : ∀ r ∈ rules, ∀ v, fields.lookup r.key = some v → r.fault? v = none)
    (there : ∀ r ∈ rules, r.required = true → (fields.lookup r.key).isSome = true) :
    record name rules (.object fields) = .ok fields := by
  have quiet : (fields.findSome? fun f => (rules.find? (·.key == f.1)).bind (·.fault? f.2)) = none := by
    rw [List.findSome?_eq_none_iff]
    intro f hf
    cases hr : rules.find? (·.key == f.1) with
    | none => rfl
    | some r =>
      have key : r.key = f.1 := by simpa using List.find?_some hr
      exact sound r (List.mem_of_find?_eq_some hr) f.2 (by rw [key]; exact once f hf)
  have complete : (rules.find? fun r => r.required && (fields.lookup r.key).isNone) = none := by
    rw [List.find?_eq_none]
    intro r hr missing
    obtain ⟨required, absent⟩ := (Bool.and_eq_true _ _).mp missing
    have := there r hr required
    rw [Option.isNone_iff_eq_none.mp absent] at this
    cases this
  rw [record, quiet]
  simp only [complete]

theorem size_ofNat {n : Nat} (h : n < UInt64.size) : Decode.size (ofNat n) = .ok n := by
  have value : (UInt64.ofNat n).toNat = n := UInt64.toNat_ofNat_of_lt' h
  show (if 0 ≤ (UInt64.ofNat n).toNat ∧ (UInt64.ofNat n).toNat ≤ UInt64.size - 1 then _ else _) = _
  rw [value, if_pos ⟨Nat.zero_le n, by omega⟩]

/-- A list is read back when each of its elements is. -/
theorem mapM_map_of_back {α : Type} {decode : Decoder α} {write : α → Json} {l : List α}
    (h : ∀ a ∈ l, decode (write a) = .ok a) : (l.map write).mapM decode = .ok l := by
  induction l with
  | nil => rfl
  | cons a l ih =>
    rw [List.map_cons, List.mapM_cons, h a List.mem_cons_self, ih fun b hb => h b (List.mem_cons_of_mem a hb)]
    rfl

end Json

namespace Item

open Json.Decode

/-! ## Fields that stand for an item -/

/-- Under each key the value of the item, if it is set, and no key twice. -/
structure Gives (i : Item) (fields : Json.Fields) : Prop where
  filePath : fields.lookup "filePath" = some (.string i.filePath)
  lineNumber : fields.lookup "lineNumber" = some (ofNat i.line)
  content : fields.lookup "content" = some (.string i.content)
  priority : fields.lookup "priority" = i.priority.map fun p => .string p.name
  assignee : fields.lookup "assignee" = i.assignee.map .string
  tags : fields.lookup "tags" = i.tags.map fun t => .array (t.map .string)
  once : ∀ f ∈ fields, fields.lookup f.1 = some f.2

theorem decode_priority (p : Priority) : optional priorityDecoder (.string p.name) = .ok (some p) := by
  cases p <;> rfl

theorem decode_tags (t : List String) : optional (list string) (.array (t.map .string)) = .ok (some t) := by
  have read : (t.map Json.string).mapM string = .ok t := Json.mapM_map_of_back fun _ _ => rfl
  show ((t.map Json.string).mapM string).map some = _
  rw [read]
  rfl

/-- A field that is set or not, under a decoder of what is set. -/
theorem getD_of_lookup {α : Type} {fields : Json.Fields} {key : String} {decode : Json.Decoder α} {write : α → Json}
    {a : Option α} (h : fields.lookup key = a.map write)
    (back : ∀ x, optional decode (write x) = .ok (some x)) : fields.getD key (optional decode) none = .ok a := by
  rw [Json.Fields.getD, h]
  cases a with
  | none => rfl
  | some x => exact back x

theorem record_of_gives {i : Item} {fields : Json.Fields} (h : i.Gives fields) (hl : i.line < UInt64.size) :
    Json.record "TodoItem"
      [Json.required "filePath" string, Json.required "lineNumber" size, Json.required "content" string,
       Json.defaulted "priority" (optional priorityDecoder), Json.defaulted "assignee" (optional string),
       Json.defaulted "tags" (optional (list string))] (.object fields) = .ok fields := by
  refine Json.record_of_sound h.once (fun r hr v hv => ?_) (fun r hr required => ?_)
  · simp only [List.mem_cons, List.not_mem_nil, or_false] at hr
    rcases hr with rfl | rfl | rfl | rfl | rfl | rfl
    · obtain rfl := Option.some.inj (h.filePath.symm.trans hv)
      rfl
    · obtain rfl := Option.some.inj (h.lineNumber.symm.trans hv)
      exact Json.faultOf_eq_none (Json.size_ofNat hl)
    · obtain rfl := Option.some.inj (h.content.symm.trans hv)
      rfl
    · obtain ⟨p, -, rfl⟩ := Option.map_eq_some_iff.mp (h.priority.symm.trans hv)
      exact Json.faultOf_eq_none (decode_priority p)
    · obtain ⟨a, -, rfl⟩ := Option.map_eq_some_iff.mp (h.assignee.symm.trans hv)
      rfl
    · obtain ⟨t, -, rfl⟩ := Option.map_eq_some_iff.mp (h.tags.symm.trans hv)
      exact Json.faultOf_eq_none (decode_tags t)
  · simp only [List.mem_cons, List.not_mem_nil, or_false] at hr
    rcases hr with rfl | rfl | rfl | rfl | rfl | rfl
    · exact Option.isSome_of_eq_some h.filePath
    · exact Option.isSome_of_eq_some h.lineNumber
    · exact Option.isSome_of_eq_some h.content
    all_goals cases required

theorem decode_of_gives {i : Item} {fields : Json.Fields} (h : i.Gives fields) (hl : i.line < UInt64.size) :
    decode (.object fields) = .ok i := by
  have path : fields.get "filePath" string = .ok i.filePath := by rw [Json.Fields.get, h.filePath]; rfl
  have line : fields.get "lineNumber" size = .ok i.line := by
    rw [Json.Fields.get, h.lineNumber]
    exact Json.size_ofNat hl
  have content : fields.get "content" string = .ok i.content := by rw [Json.Fields.get, h.content]; rfl
  have priority := getD_of_lookup h.priority decode_priority
  have assignee : fields.getD "assignee" (optional string) none = .ok i.assignee := getD_of_lookup h.assignee fun _ => rfl
  have tags := getD_of_lookup h.tags decode_tags
  simp only [decode, record_of_gives h hl, path, line, content, priority, assignee, tags, bind, Except.bind]
  rfl

/-! ## The object an item is written as -/

/-- The fields of an item, in the order in which they are written. -/
def fields (i : Item) : Json.Fields :=
  [("filePath", .string i.filePath), ("lineNumber", ofNat i.line), ("content", .string i.content)]
    ++ (i.priority.map fun p => ("priority", Json.string p.name)).toList
    ++ (i.assignee.map fun a => ("assignee", Json.string a)).toList
    ++ (i.tags.map fun t => ("tags", Json.array (t.map Json.string))).toList

theorem keyed_toJson (i : Item) : keyed i.toJson = ofFields i.fields := by
  have words : ∀ t : List String, Json.keyedItems (t.map Json.string) = t.map Json.string := by
    intro t
    rw [Json.keyedItems_eq, List.map_map]
    rfl
  show ofFields (Json.keyedFields i.fields) = _
  rw [Json.keyedFields_eq]
  congr 1
  unfold fields
  cases i.priority <;> cases i.assignee <;> cases i.tags <;> simp [keyed, words, ofNat]

theorem plain_toJson (i : Item) : Json.Plain 2 i.toJson := by
  refine .object fun f (hf : f ∈ i.fields) => ?_
  simp only [fields, List.mem_append, List.mem_cons, List.not_mem_nil, or_false, Option.mem_toList,
    Option.map_eq_some_iff] at hf
  rcases hf with (((rfl | rfl | rfl) | ⟨p, -, rfl⟩) | ⟨a, -, rfl⟩) | ⟨t, -, rfl⟩
  · exact .string _
  · exact .number trivial
  · exact .string _
  · exact .string _
  · exact .string _
  · refine .array fun j hj => ?_
    obtain ⟨s, -, rfl⟩ := List.mem_map.mp hj
    exact .string s

theorem gives_keyed (i : Item) : ∃ fields, keyed i.toJson = .object fields ∧ i.Gives fields := by
  have ordered := Json.ordered_sortFields i.fields
  have read : ∀ key, (ofFields i.fields).field? key = i.fields.reverse.lookup key := fun key => Json.field?_ofFields key _
  refine ⟨_, keyed_toJson i, (read _).trans ?_, (read _).trans ?_, (read _).trans ?_, (read _).trans ?_,
    (read _).trans ?_, (read _).trans ?_, fun f hf => Json.lookup_of_mem ordered hf⟩
  all_goals
    unfold fields
    cases i.priority <;> cases i.assignee <;> cases i.tags <;> simp [lookup_cons]

theorem decode_keyed {i : Item} (h : i.line < UInt64.size) : decode (keyed i.toJson) = .ok i := by
  obtain ⟨fields, object, gives⟩ := gives_keyed i
  rw [object, decode_of_gives gives h]

end Item

namespace Report

/-! ## The text of a list of items -/

theorem keyed_document (time : String) (items : List Item) :
    keyed (.object [("timestamp", .string time), ("totalCount", ofNat items.length),
      ("todos", .array (items.map Item.toJson))]) =
    .object [("timestamp", .string time), ("todos", .array (items.map fun i => keyed i.toJson)),
      ("totalCount", ofNat items.length)] := by
  have listed : keyed (.array (items.map Item.toJson)) = .array (items.map fun i => keyed i.toJson) := by
    rw [keyed, Json.keyedItems_eq, List.map_map]
    rfl
  have count : ¬ "totalCount" < "timestamp" := by decide
  have todos : ¬ "todos" < "timestamp" := by decide
  have between : "todos" < "totalCount" := by decide
  rw [keyed, Json.keyedFields_eq, List.map_cons, List.map_cons, List.map_cons, List.map_nil, listed]
  simp [ofFields, Json.sortFields, Json.setField, count, todos, between, keyed, ofNat]

/-- The JSON text of items is an object of three fields: the time, the items and how many they are. The items
    are decoded as the list, and so is their number, if the list fits in memory. -/
theorem json_reads_back {items : List Item} (h : ∀ i ∈ items, i.line < UInt64.size) (time : String) :
    ∃ todos count, Json.parse? (render time items .json).toList =
        some (.object [("timestamp", .string time), ("todos", todos), ("totalCount", count)]) ∧
      Json.Decode.list Item.decode todos = .ok items ∧
      (items.length < UInt64.size → Json.Decode.size count = .ok items.length) := by
  have plain : Json.Plain 4 (.object [("timestamp", .string time), ("totalCount", ofNat items.length),
      ("todos", .array (items.map Item.toJson))]) := by
    refine .object fun f hf => ?_
    simp only [List.mem_cons, List.not_mem_nil, or_false] at hf
    rcases hf with rfl | rfl | rfl
    · exact .string _
    · exact .number trivial
    · refine .array fun j hj => ?_
      obtain ⟨i, -, rfl⟩ := List.mem_map.mp hj
      exact i.plain_toJson
  refine ⟨_, _, (Json.parse?_pretty plain (by decide)).trans (congrArg some (keyed_document time items)), ?_,
    Json.size_ofNat⟩
  exact Json.mapM_map_of_back fun i hi => Item.decode_keyed (h i hi)

/-- Controls, quotes and characters outside of ASCII, the largest line, and tags that are set to none at all. -/
theorem json_reads_back_awkward_items :
    let items : List Item := [⟨"a\"b\n\x00\x1f/é.rs", 18446744073709551615, "[TODO] \\ 버그", some .low, some "", some []⟩,
      ⟨"", 0, "", none, none, some ["", "x y"]⟩]
    (∀ i ∈ items, i.line < UInt64.size) ∧ ∃ todos count, Json.parse? (render "now" items .json).toList =
        some (.object [("timestamp", .string "now"), ("todos", todos), ("totalCount", count)]) ∧
      Json.Decode.list Item.decode todos = .ok items ∧ Json.Decode.size count = .ok 2 := by
  intro items
  have lines : ∀ i ∈ items, i.line < UInt64.size := by decide
  obtain ⟨todos, count, read, listed, counted⟩ := json_reads_back lines "now"
  exact ⟨lines, todos, count, read, listed, counted (by decide)⟩

end Report

end MarkerScan
