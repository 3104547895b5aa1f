import MarkerScan.Proofs.Item.Grouping
import MarkerScan.Slack.Message
/-
  MarkerScan.Proofs.Slack.Digest — the messages of a digest.

  A digest is one list of blocks (`digest_eq`), and its length follows from the number of
  items and of files (`length_digest`). Cutting it loses nothing and leaves no piece short
  but the last one (`CutInto`, `cutInto_cut`), which gives the number of pieces
  (`length_of_cutInto`). `digestMessages_exact` says what the messages of every list of items are.
-/

namespace MarkerScan.Slack

/-! ## Cutting -/

/-- Pieces of `n` elements, the last one perhaps shorter, that make up a list. -/
structure CutInto {α : Type} (n : Nat) (xs : List α) (pieces : List (List α)) : Prop where
  whole : pieces.flatten = xs
  sized : ∀ piece ∈ pieces, piece ≠ [] ∧ piece.length ≤ n
  full : ∀ piece ∈ pieces.dropLast, piece.length = n

variable {α : Type} {n left : Nat} {xs : List α}

theorem cut_of_ne_nil (hxs : xs ≠ []) : cut n (left + 1) xs = xs.take n :: cut n left (xs.drop n) := by
  cases xs with
  | nil => exact absurd rfl hxs
  | cons x xs => rfl

/-- By induction on the bound for the number of pieces, which the length of the list keeps to. -/
theorem cutInto_cut (hn : 0 < n) (h : xs.length ≤ left) : CutInto n xs (cut n left xs) := by
  induction left generalizing xs with
  | zero =>
    obtain rfl := List.length_eq_zero_iff.mp (Nat.le_zero.mp h)
    exact ⟨rfl, fun _ hp => absurd hp List.not_mem_nil, fun _ hp => absurd hp List.not_mem_nil⟩
  | succ left ih =>
    by_cases hxs : xs = []
    · subst hxs
      exact ⟨rfl, fun _ hp => absurd hp List.not_mem_nil, fun _ hp => absurd hp List.not_mem_nil⟩
    · rw [cut_of_ne_nil hxs]
      have hlen := List.length_pos_iff.mpr hxs
      have rest : CutInto n (xs.drop n) (cut n left (xs.drop n)) := ih (by rw [List.length_drop]; omega)
      refine ⟨?_, List.forall_mem_cons.mpr ⟨⟨?_, List.length_take_le n xs⟩, rest.sized⟩, ?_⟩
      · rw [List.flatten_cons, rest.whole, List.take_append_drop]
      · exact List.length_pos_iff.mp (by rw [List.length_take]; omega)
      · by_cases hrest : cut n left (xs.drop n) = []
        · rw [hrest]
          exact fun _ hp => absurd hp List.not_mem_nil
        · rw [List.dropLast_cons_of_ne_nil hrest]
          refine List.forall_mem_cons.mpr ⟨?_, rest.full⟩
          have more : xs.drop n ≠ [] := fun none => hrest (by rw [none]; cases left <;> rfl)
          have := List.length_pos_iff.mpr more
          rw [List.length_drop] at this
          rw [List.length_take]
          omega

/-- So many pieces as it takes, by induction on them: all but the last one are full. -/
theorem length_of_cutInto {pieces : List (List α)} (hn : 0 < n) (h : CutInto n xs pieces) :
    pieces.length = (xs.length + (n - 1)) / n := by
  induction pieces generalizing xs with
  | nil =>
    obtain rfl : [] = xs := h.whole
    exact (Nat.div_eq_of_lt (by simp; omega)).symm
  | cons piece rest ih =>
    obtain ⟨first, others⟩ := List.forall_mem_cons.mp h.sized
    have hlen := congrArg List.length h.whole
    rw [List.flatten_cons, List.length_append] at hlen
    have hpos := List.length_pos_iff.mpr first.1
    by_cases hrest : rest = []
    · subst hrest
      have one : xs.length + (n - 1) = (xs.length - 1) + n := by simp at hlen; omega
      rw [one, Nat.add_div_right _ hn, Nat.div_eq_of_lt (by simp at hlen; omega)]
      rfl
    · have full := h.full
      rw [List.dropLast_cons_of_ne_nil hrest] at full
      obtain ⟨whole, full⟩ := List.forall_mem_cons.mp full
      have more : xs.length + (n - 1) = rest.flatten.length + (n - 1) + n := by omega
      rw [List.length_cons, ih ⟨rfl, others, full⟩, more, Nat.add_div_right _ hn]

/-! ## The blocks -/

/-- The blocks of a file: its section, those of its items, and a divider if there are several files. -/
def fileBlocks (items : List Item) (path : String) : List Json :=
  textSection ("*" ++ path ++ "*") :: (Item.ofPath path items).map (fun i => textSection (itemLine i)) ++
    if 1 < (Item.paths items).length then [divider] else []

theorem digest_eq (time : String) (items : List Item) :
    digest time items =
      header items :: divider :: (Item.paths items).flatMap (fileBlocks items) ++ [context time items] := by
  simp only [digest, Item.byFile_eq, List.flatMap_map, List.length_map]
  have same : ∀ path, groupBlocks (decide (1 < (Item.paths items).length)) (path, Item.ofPath path items) =
      fileBlocks items path := by
    intro path
    simp only [groupBlocks, decide_eq_true_eq]
    rfl
  simp only [same]

theorem length_fileBlocks (items : List Item) (names : List String) :
    (names.flatMap (fileBlocks items)).length =
      names.length + (names.flatMap fun path => Item.ofPath path items).length +
        if 1 < (Item.paths items).length then names.length else 0 := by
  induction names with
  | nil => simp
  | cons name names ih =>
    simp only [List.flatMap_cons, List.length_append, ih, fileBlocks, List.length_cons, List.length_map]
    split
    · simp only [List.length_singleton]
      omega
    · simp only [List.length_nil]
      omega

theorem length_digest (time : String) (items : List Item) :
    (digest time items).length =
      3 + (Item.paths items).length + items.length +
        if 1 < (Item.paths items).length then (Item.paths items).length else 0 := by
  have listed := (Item.perm_groups items).length_eq
  have files := length_fileBlocks items (Item.paths items)
  rw [listed] at files
  simp only [digest_eq, List.length_append, List.length_cons, List.length_nil, files]
  omega

/-- The line, the text and what the item says of itself. -/
theorem itemLine_eq (i : Item) :
    itemLine i = "• *Line " ++ toString i.line ++ ":* " ++ i.content ++
      (match i.priority with
        | some .high => " *[HIGH]*"
        | some .medium => " *[MEDIUM]*"
        | some .low => " *[LOW]*"
        | none => "") ++
      i.assignee.elim "" (" @" ++ ·) ++ String.join ((i.tags.getD []).map (" #" ++ ·)) := by
  obtain ⟨path, line, content, priority, assignee, tags⟩ := i
  unfold itemLine
  cases assignee with
  | none =>
    cases priority with
    | none => rfl
    | some p => cases p <;> rfl
  | some a =>
    cases priority with
    | none => rfl
    | some p => cases p <;> rfl

/-- The messages of a digest make up a header, a divider, the blocks of every file and the time. The files stand in the
    order in which they first appear, and their items are those of the list, each of them once, with its line, its text
    and what it says of itself. Every message but the last one has 45 blocks, and the last one has what is left. -/
theorem digestMessages_exact (time : String) (items : List Item) :
    let files := Item.paths items
    let messages := digestMessages time items
    let total := 3 + files.length + items.length + if 1 < files.length then files.length else 0
    let headline : Json := .object [("type", .string "header"), ("text", .object [("type", .string "plain_text"),
      ("text", .string ("TODO list (" ++ toString items.length ++ ")"))])]
    let divider : Json := .object [("type", .string "divider")]
    let block (text : String) : Json := .object [("type", .string "section"),
      ("text", .object [("type", .string "mrkdwn"), ("text", .string text)])]
    let line (i : Item) : String := "• *Line " ++ toString i.line ++ ":* " ++ i.content ++
      (match i.priority with
        | some .high => " *[HIGH]*"
        | some .medium => " *[MEDIUM]*"
        | some .low => " *[LOW]*"
        | none => "") ++
      i.assignee.elim "" (" @" ++ ·) ++ String.join ((i.tags.getD []).map (" #" ++ ·))
    let footer : Json := .object [("type", .string "context"), ("elements", .array [.object [("type", .string "mrkdwn"),
      ("text", .string (toString items.length ++ " TODOs | generated " ++ time))]])]
    ((∀ path, path ∈ files ↔ ∃ i ∈ items, i.filePath = path) ∧
      files.Pairwise fun a b => Item.firstAt a items < Item.firstAt b items) ∧
    messages.flatten = headline :: divider :: (files.flatMap fun path =>
      block ("*" ++ path ++ "*") :: (items.filter (·.filePath = path)).map (fun i => block (line i)) ++
        if 1 < files.length then [divider] else []) ++ [footer] ∧
    (files.flatMap fun path => items.filter (·.filePath = path)).Perm items ∧
    messages.flatten.length = total ∧
    (∀ m ∈ messages, m ≠ [] ∧ m.length ≤ 45) ∧ (∀ m ∈ messages.dropLast, m.length = 45) ∧
    messages.length = (total + 44) / 45 := by
  intro files messages total headline divider block line footer
  have cuts : CutInto 45 (digest time items) messages := cutInto_cut (by decide) (Nat.le_refl _)
  refine ⟨⟨fun path => Item.mem_paths, Item.paths_inOrder items⟩, ?_, Item.perm_groups items, ?_, cuts.sized,
    cuts.full, ?_⟩
  · have lines : (fun i => textSection (itemLine i)) = fun i => block (line i) := by
      funext i
      rw [itemLine_eq]
      rfl
    rw [cuts.whole, digest_eq]
    unfold fileBlocks
    rw [lines]
    rfl
  · rw [cuts.whole, length_digest]
  · rw [length_of_cutInto (by decide) cuts, length_digest]

/-- Two files whose items stand between one another. -/
theorem digestMessages_exact_interleaved :
    let items : List Item := [⟨"src/a.rs", 1, "[TODO] x", some .high, some "bob", some ["ui", "api"]⟩,
      ⟨"src/b.rs", 2, "[FIXME] y", none, none, none⟩, ⟨"src/a.rs", 9, "[HACK] z", none, none, none⟩]
    let block (text : String) : Json := .object [("type", .string "section"),
      ("text", .object [("type", .string "mrkdwn"), ("text", .string text)])]
    (digestMessages "now" items).flatten =
      [.object [("type", .string "header"), ("text", .object [("type", .string "plain_text"),
          ("text", .string "TODO list (3)")])],
        .object [("type", .string "divider")],
        block "*src/a.rs*", block "• *Line 1:* [TODO] x *[HIGH]* @bob #ui #api", block "• *Line 9:* [HACK] z",
        .object [("type", .string "divider")],
        block "*src/b.rs*", block "• *Line 2:* [FIXME] y",
        .object [("type", .string "divider")],
        .object [("type", .string "context"), ("elements", .array [.object [("type", .string "mrkdwn"),
          ("text", .string "3 TODOs | generated now")]])]] ∧
    (digestMessages "now" items).length = 1 := by
  intro items block
  obtain ⟨-, whole, -, -, -, -, number⟩ := digestMessages_exact "now" items
  have files : Item.paths items = ["src/a.rs", "src/b.rs"] := by decide +kernel
  rw [files] at whole number
  have texts : "TODO list (" ++ toString 3 ++ ")" = "TODO list (3)" ∧
      "• *Line " ++ toString 1 ++ ":* " ++ "[TODO] x" ++ " *[HIGH]*" ++ " @bob" ++ " #ui #api" =
        "• *Line 1:* [TODO] x *[HIGH]* @bob #ui #api" ∧
      "• *Line " ++ toString 9 ++ ":* " ++ "[HACK] z" = "• *Line 9:* [HACK] z" ∧
      "• *Line " ++ toString 2 ++ ":* " ++ "[FIXME] y" = "• *Line 2:* [FIXME] y" ∧
      toString 3 ++ " TODOs | generated " ++ "now" = "3 TODOs | generated now" := by
    decide +kernel
  constructor
  · rw [whole]
    simpa [items, block] using texts
  · simpa [items] using number

end MarkerScan.Slack
