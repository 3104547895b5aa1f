import MarkerScan.Proofs.Tree.Walk
/-
  MarkerScan.Proofs.Tree.Relative — the path of a node below a directory.

  A node below a directory is named by the path of its place from there, with `/` between
  the names.

  Proved, for proper trees:
  - `pathText_inj`: two places below a directory have two paths.
  - `relative_placeText`: the path is what is left of the text of the place of the node when
    that of the directory is taken away from its front.
  - `resolve_joined`: behind any path that leads to the directory, through links or not, it
    leads to the node.
-/

namespace MarkerScan

variable {place base : List Name}

theorem split_pathText (h : ∀ name ∈ place, properName name = true) (hne : place ≠ []) :
    Text.split '/' (pathText place) = place :=
  Text.split_join hne fun name hm => (FileSystem.properName_iff.mp (h name hm)).2.1

theorem pathText_inj {a b : List Name} (ha : ∀ name ∈ a, properName name = true)
    (hb : ∀ name ∈ b, properName name = true) (hane : a ≠ []) (hbne : b ≠ []) (h : pathText a = pathText b) : a = b := by
  rw [← split_pathText ha hane, h, split_pathText hb hbne]

/-- The path of a place starts with a name and ends with one. -/
theorem pathText_ends (h : ∀ name ∈ place, properName name = true) (hne : place ≠ []) :
    (∃ c rest, c ≠ '/' ∧ pathText place = c :: rest) ∧ (pathText place).getLast? ≠ some '/' := by
  have pieces := split_pathText h hne
  have noEmpty : [] ∉ place := fun hm => (FileSystem.properName_iff.mp (h [] hm)).1 rfl
  constructor
  · cases ht : pathText place with
    | nil =>
      rw [ht, Text.split_nil] at pieces
      exact absurd (by simp [← pieces]) noEmpty
    | cons c rest =>
      refine ⟨c, rest, ?_, rfl⟩
      rintro rfl
      rw [ht, Text.split_cons_sep] at pieces
      exact noEmpty (by simp [← pieces])
  · intro hlast
    obtain ⟨front, ht⟩ := List.getLast?_eq_some_iff.mp hlast
    rw [ht, Text.split_append, Text.split_nil] at pieces
    exact noEmpty (by simp [← pieces])

namespace Path

theorem parts_placeText (h : ∀ name ∈ place, properName name = true) :
    parts (FileSystem.placeText place) = .root :: place.map .name := by
  cases place with
  | nil => rfl
  | cons name place =>
    have text : FileSystem.placeText (name :: place) = '/' :: (name ++ place.flatMap ('/' :: ·)) := rfl
    have pieces : Text.split '/' (FileSystem.placeText (name :: place)) = [] :: name :: place :=
      FileSystem.split_placeText h
    rw [text, parts, ← text, pieces, List.filter_cons_of_neg (by simp), FileSystem.partsOf_names h]
    have noneHere : ((name :: place).map Part.name).filter (· != .here) = (name :: place).map Part.name := by
      rw [List.filter_eq_self]
      intro part hp
      obtain ⟨name, -, rfl⟩ := List.mem_map.mp hp
      rfl
    exact congrArg _ noneHere

/-- The names of a place below another one are what its path shows. -/
theorem relative_placeText {below : List Name} (h : ∀ name ∈ base ++ below, properName name = true) :
    relative (FileSystem.placeText base) (FileSystem.placeText (base ++ below)) = pathText below := by
  have start : (Part.root :: base.map Part.name).isPrefixOf? (Part.root :: (base ++ below).map Part.name) =
      some (below.map Part.name) := by
    rw [List.isPrefixOf?_eq_some_iff_append_eq, List.map_append, List.cons_append]
  have names : (below.map Part.name).filterMap Part.name? = below := by
    rw [List.filterMap_map]
    exact List.filterMap_some
  rw [relative, parts_placeText h, parts_placeText fun name hm => h name (List.mem_append_left _ hm), start,
    Option.getD_some, names]
  rfl

/-- The parts of a path that are not empty. -/
def named (path : List Char) : List Part := ((Text.split '/' path).filter (!·.isEmpty)).map partOf

theorem named_append (a b : List Char) : named (a ++ '/' :: b) = named a ++ named b := by
  simp only [named, Text.split_append, List.filter_append, List.map_append]

theorem named_pathText (h : ∀ name ∈ place, properName name = true) (hne : place ≠ []) :
    named (pathText place) = place.map .name := by
  rw [named, split_pathText h hne, FileSystem.partsOf_names h]

/-- Names are joined to a path that may end with `/`: either way they stand at the end as they are. -/
theorem joined_pathText {path : List Char} (hpath : path ≠ []) (h : ∀ name ∈ place, properName name = true)
    (hne : place ≠ []) :
    ∃ tail, joined path (pathText place) = path ++ tail ∧ (path ++ tail).getLast? ≠ some '/' ∧
      named (path ++ tail) = named path ++ place.map .name := by
  obtain ⟨⟨c, rest, hc, ht⟩, hend⟩ := pathText_ends h hne
  have last : ∀ front : List Char, (front ++ pathText place).getLast? ≠ some '/' := by
    intro front
    rwa [List.getLast?_append_of_ne_nil _ (by simp [ht])]
  have behind : joined path (pathText place) =
      if path.getLast? = some '/' then path ++ pathText place else path ++ '/' :: pathText place := by
    rw [ht, joined.eq_def]
    split
    · rename_i heq
      exact absurd (List.cons.inj heq).1 hc
    · rw [if_neg (by simpa using hpath)]
  rw [behind]
  split
  · rename_i hs
    obtain ⟨front, rfl⟩ := List.getLast?_eq_some_iff.mp hs
    -- The `/` at the end parts the names from the path; alone it has an empty piece behind it, which has no name.
    refine ⟨_, rfl, last _, ?_⟩
    rw [List.append_assoc, List.singleton_append, named_append, named_append, named_pathText h hne, List.append_assoc]
    rfl
  · refine ⟨_, rfl, ?_, ?_⟩
    · rw [← List.singleton_append, ← List.append_assoc]
      exact last _
    · rw [named_append, named_pathText h hne]

end Path

namespace FileSystem

theorem steps_eq (path : List Char) :
    steps path = (if path.head? = some '/' then [.root] else []) ++ Path.named path ++
      if path.getLast? = some '/' then [.here] else [] := by
  simp only [steps]
  split <;> split <;> simp [Path.named]

/-- A path with names behind it has the steps of the path, but for one that stays at its end, and then the names. -/
theorem steps_joined {path : List Char} (hpath : path ≠ []) (h : ∀ name ∈ place, properName name = true)
    (hne : place ≠ []) :
    ∃ front last, (last = [] ∨ last = [.here]) ∧ steps path = front ++ last ∧
      steps (Path.joined path (pathText place)) = front ++ place.map .name := by
  obtain ⟨tail, hjoined, hend, hnamed⟩ := Path.joined_pathText hpath h hne
  refine ⟨_, _, ?_, steps_eq path, ?_⟩
  · split
    · exact .inr rfl
    · exact .inl rfl
  · rw [hjoined, steps_eq, List.head?_append_of_ne_nil _ hpath, hnamed, if_neg hend, List.append_nil, List.append_assoc]

/-- A walk that reaches a place goes on from there along names when they stand where it ended, in place of a step that
    stays where it is, if that is its last one. -/
theorem walk_names_behind {top n : Node} (htop : top.proper = true) {goal : List Name}
    (h : top.node? (goal ++ place) = some n) (hlink : ∀ target, n ≠ .link target) {last : List Path.Part}
    (hlast : last = [] ∨ last = [.here]) {jump jump' : List Name → List Path.Part → Except FileFault Target}
    (hj : ∀ start parts, jump start (parts ++ last) = .ok (.present goal) →
      jump' start (parts ++ place.map .name) = .ok (.present (goal ++ place)))
    {start : List Name} {parts : List Path.Part} (hwalk : walk top true jump start (parts ++ last) = .ok (.present goal)) :
    walk top true jump' start (parts ++ place.map .name) = .ok (.present (goal ++ place)) := by
  induction parts generalizing start with
  | nil =>
    have here : start = goal := by
      rcases hlast with rfl | rfl
      · rw [List.append_nil, walk] at hwalk
        injection hwalk with hwalk
        exact Target.present.inj hwalk
      · rw [List.nil_append, walk] at hwalk
        split at hwalk
        · rw [walk] at hwalk
          injection hwalk with hwalk
          exact Target.present.inj hwalk
        · cases hwalk
    rw [here]
    exact walk_names htop jump' goal place h hlink
  | cons part parts ih =>
    rw [List.cons_append] at hwalk ⊢
    rcases walk_cons hwalk with ⟨next, hnext⟩ | ⟨s, target, -, hnext⟩
    · rw [hnext] at hwalk ⊢
      exact ih hwalk
    · -- What the link holds is put in front, so the steps at the end stay where they are.
      rw [hnext, if_neg (by simp), ← List.append_assoc] at hwalk
      rw [hnext, if_neg (by simp), ← List.append_assoc]
      exact hj _ _ hwalk

theorem walkLinks_names_behind {top n : Node} (htop : top.proper = true) {goal : List Name}
    (h : top.node? (goal ++ place) = some n) (hlink : ∀ target, n ≠ .link target) {last : List Path.Part}
    (hlast : last = [] ∨ last = [.here]) (links : Nat) {start : List Name} {parts : List Path.Part}
    (hwalk : walkLinks top true links start (parts ++ last) = .ok (.present goal)) :
    walkLinks top true links start (parts ++ place.map .name) = .ok (.present (goal ++ place)) := by
  induction links generalizing start parts with
  | zero =>
    refine walk_names_behind htop h hlink hlast (fun start parts hjump => ?_) hwalk
    cases hjump
  | succ links ih => exact walk_names_behind htop h hlink hlast (fun start parts hjump => ih hjump) hwalk

theorem resolve_eq_ok_iff {fs : FileSystem} {path : List Char} :
    fs.resolve path = .ok place ↔ fs.target true path = .ok (.present place) := by
  unfold resolve
  split
  · rename_i reached ht
    simp [ht]
  · rename_i ht
    simp [ht]
  · rename_i ht
    simp [ht]

/-- Behind a path that leads to a directory, the path of a place below it leads to that place. -/
theorem resolve_joined {fs : FileSystem} (hfs : fs.Proper) {path : List Char} (hpath : fs.resolve path = .ok base)
    {n : Node} (h : fs.top.node? (base ++ place) = some n) (hlink : ∀ target, n ≠ .link target) (hne : place ≠ []) :
    fs.resolve (Path.joined path (pathText place)) = .ok (base ++ place) := by
  have names : ∀ name ∈ place, properName name = true :=
    fun name hm => (Node.proper_of_node? hfs.names h).2 name (List.mem_append_right _ hm)
  rw [resolve_eq_ok_iff, target] at hpath ⊢
  split at hpath
  · cases hpath
  · rename_i hempty
    have hp : path ≠ [] := by simpa using hempty
    obtain ⟨front, last, hlast, hsteps, hjoined⟩ := steps_joined hp names hne
    have nonempty : (Path.joined path (pathText place)).isEmpty = false := by
      cases hj : Path.joined path (pathText place) with
      | cons c rest => rfl
      | nil =>
        rw [hj, steps_eq] at hjoined
        have := (List.append_eq_nil_iff.mp hjoined.symm).2
        exact absurd (List.map_eq_nil_iff.mp this) hne
    rw [hsteps] at hpath
    rw [nonempty, if_neg (by decide), hjoined]
    exact walkLinks_names_behind hfs.names h hlink hlast 40 hpath

end FileSystem

end MarkerScan
