import MarkerScan.Proofs.Notion.Page
/-
  MarkerScan.Proofs.Notion.Fields — what a page keeps of an item.

  The text, the path, the line, the assignee and the tags of an item each go to a property of
  their own kind, and all but the text to one with a name of their own (`Field`). A field
  takes the first property that fits it (`Takes`), and no two fields take one property
  (`Takes.apart`): properties of different kinds have different names, and no name is both
  one for the path and one for the assignee.

  What a page writes is these fields, the status and the priority (`mem_pageEntries`), and
  every property that is written is one of the schema, with a value of its kind
  (`keyed_of_mem`). The status and the priority are of other kinds than the fields, so every
  field that is set and has a property stands in the page as it is, whatever else is written
  (`field?_of_takes`). `pageProperties_fields` puts this together.
-/

namespace MarkerScan.Notion

/-! ## The fields -/

/-- What a page keeps of an item as it is. -/
inductive Field where
  | content
  | filePath
  | line
  | assignee
  | tags
  deriving DecidableEq

namespace Field

/-- The kind of the property for it. -/
def kind : Field → String
  | .content => "title"
  | .filePath => "rich_text"
  | .line => "number"
  | .assignee => "rich_text"
  | .tags => "multi_select"

/-- The names of the property for it, if not every name will do. -/
def names? : Field → Option (List String)
  | .content => none
  | .filePath => some ["파일 경로", "File", "Path", "File Path"]
  | .line => some ["라인 번호", "Line", "Line Number"]
  | .assignee => some ["담당자", "Assignee", "Owner"]
  | .tags => some ["태그", "Tags", "Labels"]

/-- What stands under the kind, if it is set. -/
def value? (i : Item) : Field → Option Json
  | .content => some (textValue i.content)
  | .filePath => some (textValue i.filePath)
  | .line => some (Json.ofNat i.line)
  | .assignee => i.assignee.map textValue
  | .tags => i.tags.map fun tags => .array (tags.map named)

/-- Whether the item has it. -/
def IsSet (i : Item) : Field → Prop
  | .assignee => i.assignee ≠ none
  | .tags => i.tags ≠ none
  | _ => True

/-- The status and the priority are of other kinds. -/
theorem kind_ne (x : Field) : x.kind ≠ "status" ∧ x.kind ≠ "select" := by
  cases x <;> decide

/-- The property is of its kind, with one of its names in any case. -/
def Fits (x : Field) (q : String × Property) : Prop :=
  q.2.kind = x.kind ∧ ∀ names, x.names? = some names → ∃ n ∈ names, Text.lower n.toList = Text.lower q.1.toList

/-- The first property that fits. -/
structure Takes (x : Field) (s : Schema) (q : String × Property) : Prop where
  mem : q ∈ s.properties
  fits : x.Fits q
  first : ∀ r ∈ s.properties, x.Fits r → q.1 ≤ r.1

/-- The test by which it is looked up. -/
def fits (x : Field) (q : String × Property) : Bool :=
  q.2.kind == x.kind && (x.names?.elim true fun names => names.any (sameName · q.1))

theorem fits_iff {x : Field} {q : String × Property} : x.fits q = true ↔ x.Fits q := by
  unfold fits Fits
  rw [Bool.and_eq_true, beq_iff_eq]
  cases x.names? with
  | none => simp
  | some names => simp [sameName]

theorem isSet_of_value? {i : Item} {x : Field} {v : Json} (h : x.value? i = some v) : x.IsSet i := by
  cases x with
  | assignee => exact fun none => by simp [value?, none] at h
  | tags => exact fun none => by simp [value?, none] at h
  | _ => trivial

end Field

variable {s : Schema} {i : Item} {x y : Field} {q r : String × Property} {f : String × Json}

theorem takes_of_find? (h : s.properties.find? x.fits = some q) : x.Takes s q := by
  obtain ⟨hfits, before, behind, hall, hbefore⟩ := List.find?_eq_some_iff_append.mp h
  refine ⟨List.mem_of_find?_eq_some h, Field.fits_iff.mp hfits, fun r hr hrfits => ?_⟩
  rw [hall] at hr
  rcases List.mem_append.mp hr with hr | hr
  · have := hbefore r hr
    simp [Field.fits_iff.mpr hrfits] at this
  · rcases List.mem_cons.mp hr with hr | hr
    · rw [hr]
    · have ordered := s.ordered
      rw [hall] at ordered
      have ordered := (List.pairwise_append.mp ordered).2.1
      exact ((List.pairwise_cons.mp ordered).1 r hr).le

theorem Field.Takes.unique (hq : x.Takes s q) (hr : x.Takes s r) : q = r := by
  have names : q.1 = r.1 := le_antisymm (hq.first r hr.mem hr.fits) (hr.first q hq.mem hq.fits)
  exact Prod.ext names (Json.ordered_unique s.ordered hq.mem (names ▸ hr.mem))

theorem find?_of_takes (h : x.Takes s q) : s.properties.find? x.fits = some q := by
  cases hf : s.properties.find? x.fits with
  | none => exact absurd (Field.fits_iff.mpr h.fits) (List.find?_eq_none.mp hf q h.mem)
  | some r => rw [(takes_of_find? hf).unique h]

theorem exists_takes (h : ∃ q ∈ s.properties, x.Fits q) : ∃ q, x.Takes s q := by
  simp only [← Field.fits_iff] at h
  obtain ⟨q, hq⟩ := Option.isSome_iff_exists.mp (List.find?_isSome.mpr h)
  exact ⟨q, takes_of_find? hq⟩

/-- No name is both one for the path and one for the assignee. -/
theorem not_filePath_and_assignee (hq : Field.Takes .filePath s q) (hr : Field.Takes .assignee s r) :
    q.1 ≠ r.1 := by
  have all : ∀ n ∈ filePathNames, ∀ m ∈ assigneeNames, Text.lower n.toList ≠ Text.lower m.toList := by decide +kernel
  obtain ⟨n, hn, hqn⟩ := hq.fits.2 _ rfl
  obtain ⟨m, hm, hrm⟩ := hr.fits.2 _ rfl
  intro same
  refine all n hn m hm (hqn.trans ?_)
  rw [same, hrm]

theorem eq_of_kind (h : x.kind = y.kind) :
    x = y ∨ (x = .filePath ∧ y = .assignee) ∨ (x = .assignee ∧ y = .filePath) := by
  cases x <;> cases y <;> simp_all [Field.kind]

/-- Properties of two fields have different names: their kinds differ, or their own names do. -/
theorem Field.Takes.apart (hq : x.Takes s q) (hr : y.Takes s r) (h : x ≠ y) : q.1 ≠ r.1 := by
  intro same
  have properties : q.2 = r.2 := Json.ordered_unique s.ordered hq.mem (same ▸ hr.mem)
  have kinds : x.kind = y.kind := by rw [← hq.fits.1, ← hr.fits.1, properties]
  rcases eq_of_kind kinds with hxy | ⟨hx, hy⟩ | ⟨hx, hy⟩
  · exact h hxy
  · subst hx hy
    exact not_filePath_and_assignee hq hr same
  · subst hx hy
    exact not_filePath_and_assignee hr hq same.symm

/-! ## What is written -/

/-- The property of a field, with its value. -/
def Field.written? (s : Schema) (i : Item) (x : Field) : Option (String × Json) :=
  (s.properties.find? x.fits).bind fun q => (x.value? i).map fun v => (q.1, .object [(x.kind, v)])

/-- The property for the priority, with its value. -/
def priorityWritten? (s : Schema) (i : Item) : Option (String × Json) :=
  (s.named? "select" priorityPropertyNames).bind fun p => i.priority.map fun l => (p.1, select (p.2.priorityOption l))

theorem pageEntries_eq {title : String} {t : Property} (ht : s.ofKind? "title" = some (title, t)) (i : Item) :
    pageEntries s title i =
      [Field.written? s i .content, Field.written? s i .filePath, Field.written? s i .line, statusEntry? s,
        priorityWritten? s i, Field.written? s i .assignee, Field.written? s i .tags] := by
  have content : s.properties.find? Field.content.fits = some (title, t) := by
    rw [← ht]
    unfold Schema.ofKind?
    congr 1
    funext q
    simp [Field.fits, Field.kind, Field.names?]
  have filePath : s.properties.find? Field.filePath.fits = s.named? "rich_text" filePathNames := rfl
  have line : s.properties.find? Field.line.fits = s.named? "number" lineNames := rfl
  have assignee : s.properties.find? Field.assignee.fits = s.named? "rich_text" assigneeNames := rfl
  have tags : s.properties.find? Field.tags.fits = s.named? "multi_select" tagNames := rfl
  unfold pageEntries Field.written? priorityWritten?
  rw [content, filePath, line, assignee, tags, Option.map_eq_bind, Option.map_eq_bind]
  simp only [Field.value?, Option.map_map]
  rfl

/-- What a page writes is a field, the status or the priority. -/
theorem mem_pageEntries {title : String} {t : Property} (ht : s.ofKind? "title" = some (title, t))
    {e : Option (String × Json)} :
    e ∈ pageEntries s title i ↔ (∃ x, e = Field.written? s i x) ∨ e = statusEntry? s ∨ e = priorityWritten? s i := by
  rw [pageEntries_eq ht]
  simp only [List.mem_cons, List.not_mem_nil, or_false]
  constructor
  · intro h
    rcases h with h | h | h | h | h | h | h
    · exact .inl ⟨.content, h⟩
    · exact .inl ⟨.filePath, h⟩
    · exact .inl ⟨.line, h⟩
    · exact .inr (.inl h)
    · exact .inr (.inr h)
    · exact .inl ⟨.assignee, h⟩
    · exact .inl ⟨.tags, h⟩
  · intro h
    rcases h with ⟨x, h⟩ | h | h
    · cases x <;> simp [h]
    · simp [h]
    · simp [h]

theorem written?_eq_some_iff :
    Field.written? s i x = some f ↔ ∃ q v, x.Takes s q ∧ x.value? i = some v ∧ f = (q.1, .object [(x.kind, v)]) := by
  unfold Field.written?
  simp only [Option.bind_eq_some_iff, Option.map_eq_some_iff]
  constructor
  · intro ⟨q, hq, v, hv, hf⟩
    exact ⟨q, v, takes_of_find? hq, hv, hf.symm⟩
  · intro ⟨q, v, hq, hv, hf⟩
    exact ⟨q, find?_of_takes hq, v, hv, hf.symm⟩

theorem mem_of_openOption? {p : Property} {o : String} (h : p.openOption? = some o) : o ∈ p.options := by
  unfold Property.openOption? at h
  rcases Option.or_eq_some_iff.mp h with h | ⟨-, h⟩
  · exact List.mem_of_find?_eq_some h
  · exact List.mem_of_mem_head? h

theorem kind_of_statusSelect? (h : s.statusSelect? = some q) : q.2.kind = "select" := by
  have selects : ∀ r ∈ s.properties.filter (·.2.kind == "select"), r.2.kind = "select" := by
    intro r hr
    simpa using (List.mem_filter.mp hr).2
  unfold Schema.statusSelect? at h
  rcases Option.or_eq_some_iff.mp h with h | ⟨-, h⟩
  · exact selects q (List.mem_of_find?_eq_some h)
  · exact selects q (List.mem_of_mem_head? h)

/-- The status is an option of the property that it is written into. -/
theorem exists_of_statusEntry? (h : statusEntry? s = some f) :
    ∃ q o, (s.ofKind? "status" = some q ∨ (s.ofKind? "status" = none ∧ s.statusSelect? = some q)) ∧
      (q ∈ s.properties ∧ (q.2.kind = "status" ∨ q.2.kind = "select")) ∧ q.2.openOption? = some o ∧
        f = (q.1, .object [(q.2.kind, named o)]) := by
  unfold statusEntry? at h
  cases hk : s.ofKind? "status" with
  | some q =>
    rw [hk] at h
    obtain ⟨o, ho, hf⟩ := Option.map_eq_some_iff.mp h
    obtain ⟨hmem, hkind⟩ := mem_of_ofKind? hk
    exact ⟨q, o, .inl rfl, ⟨hmem, .inl hkind⟩, ho, by rw [hkind, hf]⟩
  | none =>
    rw [hk] at h
    cases hq : s.statusSelect? with
    | none =>
      rw [hq] at h
      cases h
    | some q =>
      rw [hq] at h
      obtain ⟨o, ho, hf⟩ := Option.map_eq_some_iff.mp h
      have hkind := kind_of_statusSelect? hq
      exact ⟨q, o, .inr ⟨rfl, rfl⟩, ⟨mem_of_statusSelect? hq, .inr hkind⟩, ho, by rw [hkind, ← hf]; rfl⟩

theorem mem_of_priorityWritten? (h : priorityWritten? s i = some f) :
    ∃ q l, s.named? "select" priorityPropertyNames = some q ∧ i.priority = some l ∧
      f = (q.1, select (q.2.priorityOption l)) := by
  unfold priorityWritten? at h
  simp only [Option.bind_eq_some_iff, Option.map_eq_some_iff] at h
  obtain ⟨q, hq, l, hl, hf⟩ := h
  exact ⟨q, l, hq, hl, hf.symm⟩

/-- Every property that is written is one of the schema, with a value of its kind. -/
theorem keyed_of_mem {title : String} {t : Property} (ht : s.ofKind? "title" = some (title, t))
    (h : some f ∈ pageEntries s title i) :
    ∃ p v, (f.1, p) ∈ s.properties ∧ f.2 = .object [(p.kind, v)] ∧
      (p.kind = "status" → ∃ o ∈ p.options, v = named o) := by
  rcases (mem_pageEntries ht).mp h with ⟨x, hx⟩ | hstatus | hpriority
  · obtain ⟨q, v, hq, -, hf⟩ := written?_eq_some_iff.mp hx.symm
    rw [hf]
    refine ⟨q.2, v, hq.mem, by rw [hq.fits.1], fun hstatus => ?_⟩
    rw [hq.fits.1] at hstatus
    exact absurd hstatus x.kind_ne.1
  · obtain ⟨q, o, -, ⟨hq, -⟩, ho, hf⟩ := exists_of_statusEntry? hstatus.symm
    rw [hf]
    exact ⟨q.2, named o, hq, rfl, fun _ => ⟨o, mem_of_openOption? ho, rfl⟩⟩
  · obtain ⟨q, l, hq, -, hf⟩ := mem_of_priorityWritten? hpriority.symm
    obtain ⟨hmem, hkind, -⟩ := mem_of_named? hq
    rw [hf]
    refine ⟨q.2, named (q.2.priorityOption l), hmem, by rw [hkind]; rfl, fun hstatus => ?_⟩
    rw [hkind] at hstatus
    exact absurd hstatus (by decide)

/-! ## What a page has -/

theorem Field.Takes.ne_of_kind (hq : x.Takes s q) (hr : r ∈ s.properties)
    (hkind : r.2.kind = "status" ∨ r.2.kind = "select") : r.1 ≠ q.1 := by
  refine name_ne_of_kind_ne hr hq.mem ?_
  rw [hq.fits.1]
  rcases hkind with hkind | hkind
  · exact fun same => x.kind_ne.1 (same.trans hkind)
  · exact fun same => x.kind_ne.2 (same.trans hkind)

/-- No other entry has the property of a field. -/
theorem eq_of_mem_of_takes {title : String} {t : Property} (ht : s.ofKind? "title" = some (title, t))
    (hq : x.Takes s q) (h : some f ∈ pageEntries s title i) (hf : f.1 = q.1) : Field.written? s i x = some f := by
  rcases (mem_pageEntries ht).mp h with ⟨y, hy⟩ | hstatus | hpriority
  · obtain ⟨r, v, hr, -, hfr⟩ := written?_eq_some_iff.mp hy.symm
    by_cases hxy : x = y
    · rw [hxy, hy]
    · rw [hfr] at hf
      exact absurd hf.symm (hq.apart hr hxy)
  · obtain ⟨r, o, -, ⟨hr, hkind⟩, -, hfr⟩ := exists_of_statusEntry? hstatus.symm
    rw [hfr] at hf
    exact absurd hf (hq.ne_of_kind hr hkind)
  · obtain ⟨r, l, hr, -, hfr⟩ := mem_of_priorityWritten? hpriority.symm
    obtain ⟨hmem, hkind, -⟩ := mem_of_named? hr
    rw [hfr] at hf
    exact absurd hf (hq.ne_of_kind hmem (.inr hkind))

/-- So whatever is written last for it is its own value. -/
theorem field?_of_takes {title : String} {t : Property} (ht : s.ofKind? "title" = some (title, t))
    {v : Json} (hq : x.Takes s q) (hv : x.value? i = some v) :
    (Json.ofFields ((pageEntries s title i).filterMap id)).field? q.1 = some (.object [(x.kind, v)]) := by
  have hx : Field.written? s i x = some (q.1, .object [(x.kind, v)]) :=
    written?_eq_some_iff.mpr ⟨q, v, hq, hv, rfl⟩
  have hmem : Field.written? s i x ∈ pageEntries s title i := (mem_pageEntries ht).mpr (.inl ⟨x, rfl⟩)
  rw [field?_entries]
  cases hfound : (pageEntries s title i).reverse.findSome? (valueFor? q.1) with
  | none =>
    have := List.findSome?_eq_none_iff.mp hfound _ (List.mem_reverse.mpr hmem)
    simp [hx, valueFor?] at this
  | some w =>
    obtain ⟨e, he, hw⟩ := List.exists_of_findSome?_eq_some hfound
    cases e with
    | none => cases hw
    | some f =>
      simp only [valueFor?, Option.bind_some, Option.ite_none_right_eq_some, Option.some.injEq] at hw
      have same := eq_of_mem_of_takes ht hq (List.mem_reverse.mp he) hw.1.symm
      rw [hx] at same
      rw [← hw.2, ← Option.some.inj same]

theorem mem_fields_of_takes {title : String} {t : Property} (ht : s.ofKind? "title" = some (title, t)) {v : Json}
    (hq : x.Takes s q) (hv : x.value? i = some v) :
    (q.1, .object [(x.kind, v)]) ∈ Json.sortFields ((pageEntries s title i).filterMap id) := by
  obtain ⟨before, behind, hall, -⟩ := List.lookup_eq_some_iff.mp (field?_of_takes ht hq hv)
  rw [hall]
  exact List.mem_append_right _ List.mem_cons_self

theorem mem_pageEntries_of_mem {title : String} (hf : f ∈ Json.sortFields ((pageEntries s title i).filterMap id)) :
    some f ∈ pageEntries s title i := by
  obtain ⟨e, he, hef⟩ := List.mem_filterMap.mp (Json.mem_sortFields hf)
  exact hef ▸ he

/-- A page can be made exactly if there is a property for the text. Then all that it writes are properties of the schema
    with values of their kinds, a status among the options of its property. Every field of the item that is set and
    that a property fits stands in the first such property as it is, no two fields in one, and all else is the status
    and the priority. -/
theorem pageProperties_fields (s : Schema) (i : Item) :
    (pageProperties s i = .error (.permanent "Notion database has no title property") ↔
      ∀ q ∈ s.properties, q.2.kind ≠ "title") ∧
    ((∃ q ∈ s.properties, q.2.kind = "title") → ∃ fields, pageProperties s i = .ok (.object fields) ∧
      Json.Ordered fields ∧
      (∀ f ∈ fields, ∃ p v, (f.1, p) ∈ s.properties ∧ f.2 = .object [(p.kind, v)] ∧
        (p.kind = "status" → ∃ o ∈ p.options, v = .object [("name", .string o)])) ∧
      (∀ x : Field, (∃ q ∈ s.properties, x.Fits q) → ∃ q, x.Takes s q) ∧
      (∀ q, Field.content.Takes s q →
        (q.1, .object [("title", .array [.object [("text", .object [("content", .string i.content)])]])]) ∈ fields) ∧
      (∀ q, Field.filePath.Takes s q →
        (q.1, .object [("rich_text", .array [.object [("text", .object [("content", .string i.filePath)])]])]) ∈ fields) ∧
      (∀ q, Field.line.Takes s q → i.line < 18446744073709551616 →
        ∃ n : UInt64, n.toNat = i.line ∧ (q.1, .object [("number", .number (.whole n))]) ∈ fields) ∧
      (∀ q a, Field.assignee.Takes s q → i.assignee = some a →
        (q.1, .object [("rich_text", .array [.object [("text", .object [("content", .string a)])]])]) ∈ fields) ∧
      (∀ q tags, Field.tags.Takes s q → i.tags = some tags →
        (q.1, .object [("multi_select", .array (tags.map fun tag => .object [("name", .string tag)]))]) ∈ fields) ∧
      (∀ (x y : Field) q r, x.Takes s q → y.Takes s r → x ≠ y → q.1 ≠ r.1) ∧
      ∀ f ∈ fields,
        (∃ (x : Field) (q : String × Property), x.Takes s q ∧ x.IsSet i ∧ f.1 = q.1) ∨
        (∃ q o, (s.ofKind? "status" = some q ∨ (s.ofKind? "status" = none ∧ s.statusSelect? = some q)) ∧
          q.2.openOption? = some o ∧ f = (q.1, .object [(q.2.kind, .object [("name", .string o)])])) ∨
        ∃ q level, s.named? "select" priorityPropertyNames = some q ∧ i.priority = some level ∧
          f = (q.1, .object [("select", .object [("name", .string (q.2.priorityOption level))])])) := by
  cases ht : s.ofKind? "title" with
  | none =>
    have none := ofKind?_eq_none_iff.mp ht
    refine ⟨iff_of_true (by rw [pageProperties, ht]) none, fun h => ?_⟩
    obtain ⟨q, hq, hkind⟩ := h
    exact absurd hkind (none q hq)
  | some title =>
    have page : pageProperties s i = .ok (Json.ofFields ((pageEntries s title.1 i).filterMap id)) := by
      rw [pageProperties, ht]
    constructor
    · obtain ⟨hmem, hkind⟩ := mem_of_ofKind? ht
      rw [page]
      exact iff_of_false (fun h => by cases h) fun none => none title hmem hkind
    · intro _
      refine ⟨_, page, Json.ordered_sortFields _, fun f hf => keyed_of_mem ht (mem_pageEntries_of_mem hf),
        fun x hx => exists_takes hx, fun q hq => mem_fields_of_takes ht hq rfl,
        fun q hq => mem_fields_of_takes ht hq rfl, fun q hq hline => ?_, fun q a hq ha => ?_, fun q tags hq htags => ?_,
        fun x y q r hq hr => hq.apart hr, fun f hf => ?_⟩
      · exact ⟨UInt64.ofNat i.line, UInt64.toNat_ofNat_of_lt hline, mem_fields_of_takes ht hq rfl⟩
      · exact mem_fields_of_takes ht hq (congrArg (Option.map textValue) ha)
      · exact mem_fields_of_takes ht hq (congrArg (Option.map fun tags : List String => Json.array (tags.map named)) htags)
      · rcases (mem_pageEntries ht).mp (mem_pageEntries_of_mem hf) with ⟨x, hx⟩ | hstatus | hpriority
        · obtain ⟨q, v, hq, hv, hfq⟩ := written?_eq_some_iff.mp hx.symm
          exact .inl ⟨x, q, hq, Field.isSet_of_value? hv, congrArg Prod.fst hfq⟩
        · obtain ⟨q, o, hq, -, ho, hfq⟩ := exists_of_statusEntry? hstatus.symm
          exact .inr (.inl ⟨q, o, hq, ho, hfq⟩)
        · exact .inr (.inr (mem_of_priorityWritten? hpriority.symm))

/-- A database with two properties for the path, whatever their case, and one for everything else. -/
def twoPaths : Schema where
  properties := [("ASSIGNEE", ⟨"rich_text", none, none⟩), ("FILE", ⟨"rich_text", none, none⟩),
    ("Line", ⟨"number", none, none⟩), ("Name", ⟨"title", none, none⟩),
    ("State", ⟨"status", some ["Doing", "open"], none⟩), ("path", ⟨"rich_text", none, none⟩),
    ("태그", ⟨"multi_select", none, none⟩)]
  ordered := by decide +kernel

/-- The path goes to the first property for it, and the tags keep their order. -/
theorem pageProperties_fields_two_paths :
    let i : Item := ⟨"src/a.rs", 18446744073709551615, "[TODO] x", some .high, some "bob", some ["ui", "api"]⟩
    (∃ q ∈ twoPaths.properties, q.2.kind = "title") ∧
      ∃ fields, pageProperties twoPaths i = .ok (.object fields) ∧
        ("Name", .object [("title", .array [.object [("text", .object [("content", .string "[TODO] x")])]])]) ∈ fields ∧
        ("FILE", .object [("rich_text", .array [.object [("text", .object [("content", .string "src/a.rs")])]])]) ∈ fields ∧
        ("Line", .object [("number", .number (.whole 18446744073709551615))]) ∈ fields ∧
        ("ASSIGNEE", .object [("rich_text", .array [.object [("text", .object [("content", .string "bob")])]])]) ∈ fields ∧
        ("태그", .object [("multi_select", .array [.object [("name", .string "ui")], .object [("name", .string "api")]])])
          ∈ fields ∧
        ∀ f ∈ fields, f.1 ≠ "path" := by
  intro i
  have title : ∃ q ∈ twoPaths.properties, q.2.kind = "title" := by decide +kernel
  obtain ⟨-, page⟩ := pageProperties_fields twoPaths i
  obtain ⟨fields, hpage, -, -, -, content, filePath, line, assignee, tags, -, others⟩ := page title
  have first : ∀ (x : Field) q, twoPaths.properties.find? x.fits = some q → x.Takes twoPaths q :=
    fun x q => takes_of_find?
  obtain ⟨n, hn, hline⟩ := line ("Line", ⟨"number", none, none⟩) (first _ _ (by decide +kernel)) (by decide)
  obtain rfl : n = 18446744073709551615 := UInt64.toNat.inj hn
  refine ⟨title, fields, hpage, content ("Name", ⟨"title", none, none⟩) (first _ _ (by decide +kernel)),
    filePath ("FILE", ⟨"rich_text", none, none⟩) (first _ _ (by decide +kernel)), hline,
    assignee ("ASSIGNEE", ⟨"rich_text", none, none⟩) _ (first _ _ (by decide +kernel)) rfl,
    tags ("태그", ⟨"multi_select", none, none⟩) _ (first _ _ (by decide +kernel)) rfl, fun f hf same => ?_⟩
  rcases others f hf with ⟨x, q, hq, -, hname⟩ | ⟨q, o, hq, -, rfl⟩ | ⟨q, level, hq, -⟩
  · have elsewhere : ∀ x : Field, (twoPaths.properties.find? x.fits).all (·.1 != "path") = true := by
      intro x
      cases x <;> decide +kernel
    have := elsewhere x
    rw [find?_of_takes hq] at this
    simp [← hname, same] at this
  · have status : twoPaths.ofKind? "status" = some ("State", ⟨"status", some ["Doing", "open"], none⟩) := by
      decide +kernel
    rcases hq with hq | ⟨none, -⟩
    · obtain rfl := Option.some.inj (status.symm.trans hq)
      have same : "State" = "path" := same
      exact absurd same (by decide)
    · cases status.symm.trans none
  · have priority : twoPaths.named? "select" priorityPropertyNames = none := by decide +kernel
    cases priority.symm.trans hq

end MarkerScan.Notion
