import MarkerScan.Notion.Page
import MarkerScan.Proofs.Json.Basic
/-
  MarkerScan.Proofs.Notion.Page — what a page says of the status and the priority of an item.

  A property is known by its name, so properties of different kinds have different names
  (`name_ne_of_kind_ne`). Of the properties that a page writes, only the status and the
  priority itself can decide what stands at the property for the priority (`field?_page`).
  The status goes there in one case only: there is no property for a status, and the one for
  the priority is the first `select` (`statusEntry?_name_iff`, with `StatusFallsTo`).
-/

namespace MarkerScan.Notion

variable {s : Schema} {name : String} {p : Property}

/-! ## Properties that are found -/

theorem mem_of_ofKind? {kind : String} (h : s.ofKind? kind = some (name, p)) :
    (name, p) ∈ s.properties ∧ p.kind = kind :=
  ⟨List.mem_of_find?_eq_some h, by simpa using List.find?_some h⟩

theorem mem_of_named? {kind : String} {names : List String} (h : s.named? kind names = some (name, p)) :
    (name, p) ∈ s.properties ∧ p.kind = kind ∧ ∃ n ∈ names, sameName n name = true := by
  have found := List.find?_some h
  simp only [Bool.and_eq_true, beq_iff_eq, List.any_eq_true] at found
  exact ⟨List.mem_of_find?_eq_some h, found⟩

theorem ofKind?_eq_none_iff {kind : String} : s.ofKind? kind = none ↔ ∀ q ∈ s.properties, q.2.kind ≠ kind := by
  simp [Schema.ofKind?]

/-- Properties of different kinds have different names. -/
theorem name_ne_of_kind_ne {q : String × Property} (hp : (name, p) ∈ s.properties) (hq : q ∈ s.properties)
    (h : q.2.kind ≠ p.kind) : name ≠ q.1 := by
  rintro rfl
  exact h (congrArg Property.kind (Json.ordered_unique s.ordered hq hp))

theorem openOption?_eq_none_iff : p.openOption? = none ↔ p.options = [] := by
  unfold Property.openOption?
  rw [Option.or_eq_none_iff, List.head?_eq_none_iff]
  exact and_iff_right_of_imp fun h => by rw [h]; rfl

/-! ## Where the status goes -/

/-- No property is for a status, by its kind or as a `select` by its name, and this is the first `select`. -/
structure Schema.StatusFallsTo (s : Schema) (name : String) : Prop where
  noKind : ∀ q ∈ s.properties, q.2.kind ≠ "status"
  noName : ∀ q ∈ s.properties, q.2.kind = "select" → Schema.speaksOfStatus q.1 = false
  first : ∀ q ∈ s.properties, q.2.kind = "select" → name ≤ q.1

/-- A name for the priority does not speak of a status. -/
theorem not_speaksOfStatus_of_priority {n : String} (hn : n ∈ priorityPropertyNames) (h : sameName n name = true) :
    Schema.speaksOfStatus name = false := by
  have all : ∀ n ∈ priorityPropertyNames, Schema.speaksOfStatus n = false := by decide +kernel
  have same : Text.lower name.toList = Text.lower n.toList := (beq_iff_eq.mp h).symm
  rw [Schema.speaksOfStatus, same]
  exact all n hn

/-- The `select` for a status is the property for the priority only if it is the first one and no other is named so. -/
theorem statusSelect?_eq_iff (hp : s.named? "select" priorityPropertyNames = some (name, p)) :
    s.statusSelect? = some (name, p) ↔
      ∀ q ∈ s.properties, q.2.kind = "select" → Schema.speaksOfStatus q.1 = false ∧ name ≤ q.1 := by
  obtain ⟨hmem, hkind, n, hn, hsame⟩ := mem_of_named? hp
  unfold Schema.statusSelect?
  have mem : ∀ q, q ∈ s.properties.filter (·.2.kind == "select") ↔ q ∈ s.properties ∧ q.2.kind = "select" := fun q => by
    rw [List.mem_filter, beq_iff_eq]
  have sorted : Json.Ordered (s.properties.filter (·.2.kind == "select")) := List.Pairwise.filter _ s.ordered
  simp only [← and_imp, ← mem]
  have hmem := (mem (name, p)).mpr ⟨hmem, hkind⟩
  generalize s.properties.filter (·.2.kind == "select") = selects at *
  constructor
  · intro h
    cases hf : selects.find? fun q => Schema.speaksOfStatus q.1 with
    | some q =>
      rw [hf, Option.some_or] at h
      have speaks := List.find?_some hf
      rw [Option.some.inj h, not_speaksOfStatus_of_priority hn hsame] at speaks
      cases speaks
    | none =>
      rw [hf, Option.none_or] at h
      obtain ⟨rest, rfl⟩ := List.head?_eq_some_iff.mp h
      intro q hq
      refine ⟨by simpa using List.find?_eq_none.mp hf q hq, ?_⟩
      rcases List.mem_cons.mp hq with rfl | hq
      · exact le_refl name
      · exact ((List.pairwise_cons.mp sorted).1 q hq).le
  · intro h
    have hf : (selects.find? fun q => Schema.speaksOfStatus q.1) = none :=
      List.find?_eq_none.mpr fun q hq => by simp [(h q hq).1]
    rw [hf, Option.none_or]
    cases selects with
    | nil => cases hmem
    | cons q rest =>
      rcases List.mem_cons.mp hmem with rfl | hrest
      · rfl
      · have before : q.1 < name := (List.pairwise_cons.mp sorted).1 _ hrest
        exact absurd before (h q (List.mem_cons_self ..)).2.not_gt

theorem statusFallsTo_iff (hp : s.named? "select" priorityPropertyNames = some (name, p)) :
    s.StatusFallsTo name ↔ s.ofKind? "status" = none ∧ s.statusSelect? = some (name, p) := by
  rw [ofKind?_eq_none_iff, statusSelect?_eq_iff hp]
  exact ⟨fun h => ⟨h.noKind, fun q hq hk => ⟨h.noName q hq hk, h.first q hq hk⟩⟩,
    fun h => ⟨h.1, fun q hq hk => (h.2 q hq hk).1, fun q hq hk => (h.2 q hq hk).2⟩⟩

theorem mem_of_statusSelect? (h : s.statusSelect? = some (name, p)) : (name, p) ∈ s.properties := by
  unfold Schema.statusSelect? at h
  rcases Option.or_eq_some_iff.mp h with h | ⟨-, h⟩
  · exact List.mem_of_mem_filter (List.mem_of_find?_eq_some h)
  · exact List.mem_of_mem_filter (List.mem_of_mem_head? h)

theorem statusEntry?_of_statusFallsTo (hp : s.named? "select" priorityPropertyNames = some (name, p))
    (h : s.StatusFallsTo name) : statusEntry? s = p.openOption?.map fun o => (name, select o) := by
  obtain ⟨hkind, hselect⟩ := (statusFallsTo_iff hp).mp h
  unfold statusEntry?
  rw [hkind, hselect]

/-- In every other case the status goes to another property, if to any. -/
theorem ne_of_not_statusFallsTo (hp : s.named? "select" priorityPropertyNames = some (name, p))
    (h : ¬ s.StatusFallsTo name) {f : String × Json} (hf : statusEntry? s = some f) : name ≠ f.1 := by
  obtain ⟨hmem, hkind, -⟩ := mem_of_named? hp
  unfold statusEntry? at hf
  cases hk : s.ofKind? "status" with
  | some q =>
    obtain ⟨n, q⟩ := q
    rw [hk] at hf
    obtain ⟨o, -, rfl⟩ := Option.map_eq_some_iff.mp hf
    obtain ⟨hq, hqkind⟩ := mem_of_ofKind? hk
    exact name_ne_of_kind_ne hmem hq (by rw [hqkind, hkind]; decide)
  | none =>
    rw [hk] at hf
    cases hq : s.statusSelect? with
    | none =>
      rw [hq] at hf
      cases hf
    | some q =>
      obtain ⟨n, q⟩ := q
      rw [hq] at hf
      obtain ⟨o, -, rfl⟩ := Option.map_eq_some_iff.mp hf
      rintro rfl
      obtain rfl := Json.ordered_unique s.ordered (mem_of_statusSelect? hq) hmem
      exact h ((statusFallsTo_iff hp).mpr ⟨hk, hq⟩)

theorem statusEntry?_name_iff (hp : s.named? "select" priorityPropertyNames = some (name, p)) :
    (∃ value, statusEntry? s = some (name, value)) ↔ s.StatusFallsTo name ∧ p.options ≠ [] := by
  constructor
  · rintro ⟨value, hv⟩
    have h : s.StatusFallsTo name := by
      by_contra h
      exact ne_of_not_statusFallsTo hp h hv rfl
    refine ⟨h, fun none => ?_⟩
    rw [statusEntry?_of_statusFallsTo hp h, openOption?_eq_none_iff.mpr none] at hv
    cases hv
  · rintro ⟨h, some⟩
    obtain ⟨o, ho⟩ := Option.ne_none_iff_exists'.mp (mt openOption?_eq_none_iff.mp some)
    exact ⟨select o, by rw [statusEntry?_of_statusFallsTo hp h, ho]; rfl⟩

/-! ## What a page says -/

/-- The value that one entry has for a key. -/
def valueFor? (key : String) (entry : Option (String × Json)) : Option Json :=
  entry.bind fun f => if key = f.1 then some f.2 else none

theorem valueFor?_eq_none {key : String} {entry : Option (String × Json)} (h : ∀ f, entry = some f → key ≠ f.1) :
    valueFor? key entry = none := by
  cases entry with
  | none => rfl
  | some f => exact if_neg (h f rfl)

/-- Of the entries for a key the last one counts. -/
theorem field?_entries (key : String) (entries : List (Option (String × Json))) :
    (Json.ofFields (entries.filterMap id)).field? key = entries.reverse.findSome? (valueFor? key) := by
  rw [Json.field?_ofFields, ← List.filterMap_reverse]
  induction entries.reverse with
  | nil => rfl
  | cons e entries ih =>
    cases e with
    | none => exact ih
    | some f =>
      rw [List.filterMap_cons, id, Json.lookup_cons, List.findSome?_cons, ih]
      simp only [valueFor?, Option.bind_some]
      split <;> rfl

/-- An entry for a property of another kind says nothing of the property for the priority. -/
theorem valueFor?_other (hmem : (name, p) ∈ s.properties) {kind : String} {names : List String}
    (hkind : kind ≠ p.kind) {entry : String × Property → Option (String × Json)}
    (he : ∀ q f, entry q = some f → f.1 = q.1) : valueFor? name ((s.named? kind names).bind entry) = none := by
  refine valueFor?_eq_none fun f hf => ?_
  obtain ⟨q, hq, hf⟩ := Option.bind_eq_some_iff.mp hf
  obtain ⟨hq, hqkind, -⟩ := mem_of_named? hq
  rw [he q f hf]
  exact name_ne_of_kind_ne hmem hq (by rwa [hqkind])

/-- Only the priority and the status decide what stands at the property for the priority. -/
theorem field?_page (hp : s.named? "select" priorityPropertyNames = some (name, p)) {title : String}
    {t : Property} (ht : s.ofKind? "title" = some (title, t)) (i : Item) :
    (Json.ofFields ((pageEntries s title i).filterMap id)).field? name =
      (i.priority.map fun l => select (p.priorityOption l)).or (valueFor? name <| statusEntry? s) := by
  obtain ⟨hmem, hkind, -⟩ := mem_of_named? hp
  have keyed : ∀ {α : Type} (x : Option α) (value : α → Json) (q : String × Property) (f : String × Json),
      (x.map fun a => (q.1, value a)) = some f → f.1 = q.1 := by
    intro α x value q f hf
    obtain ⟨a, -, rfl⟩ := Option.map_eq_some_iff.mp hf
    rfl
  have tags := @valueFor?_other s name p hmem "multi_select" tagNames (by rw [hkind]; decide) _
    (keyed i.tags fun tags => .object [("multi_select", .array (tags.map named))])
  have assignee := @valueFor?_other s name p hmem "rich_text" assigneeNames (by rw [hkind]; decide) _
    (keyed i.assignee richText)
  have line : valueFor? name ((s.named? "number" lineNames).map fun q =>
      (q.1, .object [("number", Json.ofNat i.line)])) = none := by
    rw [Option.map_eq_bind]
    exact valueFor?_other hmem (by rw [hkind]; decide) (keyed (some ()) fun _ => _)
  have file : valueFor? name ((s.named? "rich_text" filePathNames).map fun q => (q.1, richText i.filePath)) = none := by
    rw [Option.map_eq_bind]
    exact valueFor?_other hmem (by rw [hkind]; decide) (keyed (some ()) fun _ => _)
  have content : valueFor? name (some (title, .object [("title", textValue i.content)])) = none := by
    obtain ⟨ht, htkind⟩ := mem_of_ofKind? ht
    exact if_neg (name_ne_of_kind_ne hmem ht (by rw [htkind, hkind]; decide))
  rw [field?_entries, pageEntries]
  simp only [List.reverse_cons, List.reverse_nil, List.nil_append, List.cons_append, List.findSome?_cons,
    List.findSome?_nil, tags, assignee, line, file, content, hp, Option.bind_some]
  cases i.priority with
  | none => cases valueFor? name <| statusEntry? s <;> rfl
  | some l => simp [valueFor?]

/-- The property for the priority has the option for the item's priority. It is also the one for the status if no
    property is for a status and it is the first `select`, and only then does the page of an item without a priority
    write it: with the open option, if there is an option. -/
theorem pageProperties_priority (s : Schema) (ht : ∃ q ∈ s.properties, q.2.kind = "title") (i : Item) :
    ∃ page, pageProperties s i = .ok page ∧
      ∀ name p, s.named? "select" priorityPropertyNames = some (name, p) →
        ((∃ value, statusEntry? s = some (name, value)) ↔ s.StatusFallsTo name ∧ p.options ≠ []) ∧
        (∀ level, i.priority = some level →
          page.field? name = some (.object [("select", .object [("name", .string (p.priorityOption level))])])) ∧
        (i.priority = none → s.StatusFallsTo name →
          page.field? name = p.openOption?.map fun o => .object [("select", .object [("name", .string o)])]) ∧
        (i.priority = none → ¬ s.StatusFallsTo name → page.field? name = none) := by
  obtain ⟨q, hq, hqkind⟩ := ht
  obtain ⟨⟨title, t⟩, ht⟩ := Option.ne_none_iff_exists'.mp (mt ofKind?_eq_none_iff.mp fun none => none q hq hqkind)
  refine ⟨Json.ofFields ((pageEntries s title i).filterMap id), by rw [pageProperties, ht], fun name p hp => ?_⟩
  rw [field?_page hp ht]
  refine ⟨statusEntry?_name_iff hp, fun level hl => ?_, fun hl falls => ?_, fun hl other => ?_⟩
  · rw [hl]
    rfl
  · rw [hl, statusEntry?_of_statusFallsTo hp falls]
    cases p.openOption? <;> simp [valueFor?, select, named]
  · rw [hl, valueFor?_eq_none fun f hf => ne_of_not_statusFallsTo hp other hf]
    rfl

/-- A database with a property for the priority, and one for the status when `status` is set. -/
def board (status : Bool) : Schema where
  properties := [("Name", ⟨"title", none, none⟩), ("Priority", ⟨"select", none, some ["High"]⟩)] ++
    if status then [("Status", ⟨"select", none, some ["Open"]⟩)] else []
  ordered := by cases status <;> decide +kernel

/-- With a `select` for the status, the property for the priority has what the item says and nothing else. -/
theorem pageProperties_priority_own_status :
    (∃ page, pageProperties (board true) ⟨"a.rs", 1, "[TODO] x", none, none, none⟩ = .ok page ∧
      page.field? "Priority" = none) ∧
    ∃ page, pageProperties (board true) ⟨"a.rs", 1, "[TODO] x", some .low, none, none⟩ = .ok page ∧
      page.field? "Priority" = some (.object [("select", .object [("name", .string "Low")])]) := by
  have ht : ∃ q ∈ (board true).properties, q.2.kind = "title" := by decide +kernel
  have hp : (board true).named? "select" priorityPropertyNames =
      some ("Priority", ⟨"select", none, some ["High"]⟩) := by
    decide +kernel
  have other : ¬ (board true).StatusFallsTo "Priority" := fun h =>
    absurd (h.noName ("Status", ⟨"select", none, some ["Open"]⟩) (by decide +kernel) rfl) (by decide +kernel)
  constructor
  · obtain ⟨page, hpage, priority⟩ := pageProperties_priority (board true) ht ⟨"a.rs", 1, "[TODO] x", none, none, none⟩
    exact ⟨page, hpage, (priority _ _ hp).2.2.2 rfl other⟩
  · obtain ⟨page, hpage, priority⟩ :=
      pageProperties_priority (board true) ht ⟨"a.rs", 1, "[TODO] x", some .low, none, none⟩
    exact ⟨page, hpage, (priority _ _ hp).2.1 .low rfl⟩

/-- Without one, the open option stands at the property for the priority, though the item has no priority. -/
theorem pageProperties_status_at_priority :
    (board false).named? "select" priorityPropertyNames = some ("Priority", ⟨"select", none, some ["High"]⟩) ∧
    (∃ value, statusEntry? (board false) = some ("Priority", value)) ∧
    ∃ page, pageProperties (board false) ⟨"a.rs", 1, "[TODO] x", none, none, none⟩ = .ok page ∧
      page.field? "Priority" = some (.object [("select", .object [("name", .string "High")])]) := by
  exact ⟨by decide +kernel, ⟨_, rfl⟩, _, rfl, rfl⟩

end MarkerScan.Notion
