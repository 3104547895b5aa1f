import MarkerScan.Proofs.Text.Lines
import MarkerScan.Tree.FileSystem
/-
  MarkerScan.Proofs.Tree.Place — the places of a tree, and the paths that lead to them.

  A tree is proper when the names in each directory are those a file system can hold: not
  empty, without `/`, neither `.` nor `..`, of at most 255 bytes, and no two the same.

  Proved, for proper trees:
  - `mem_child?`: every entry of a directory is the one found under its name.
  - `proper_of_node?`: what stands at a place is proper, and so are the names that lead to it.
  - `target_placeText`: the text of the place of a node leads to that place, whatever the
    working directory is, unless the node is a link that is to be followed.
  - `read_placeText`: so reading the text of the place of a file gives its bytes.

  In any tree, a path that leads to a node leads to it also when a link at its end is not
  followed, unless it ends at a link (`nodeItself_of_node`).
-/

namespace MarkerScan

/-- A name that an entry of a directory may have. -/
def properName (name : Name) : Bool :=
  !name.isEmpty && !name.contains '/' && name != ['.'] && name != ['.', '.'] &&
    decide (FileSystem.nameSize name ≤ FileSystem.nameLimit)

namespace Node

mutual
/-- All names at or below the node may stand where they do. -/
def proper : Node → Bool
  | .file _ => true
  | .link _ => true
  | .dir entries => decide (entries.map (·.1)).Nodup && properIn entries
termination_by structural n => n

def properIn : List (Name × Node) → Bool
  | [] => true
  | (name, node) :: rest => properName name && node.proper && properIn rest
termination_by structural entries => entries
end

theorem mem_of_properIn {entries : List (Name × Node)} (h : properIn entries = true) {name : Name} {node : Node}
    (hm : (name, node) ∈ entries) : properName name = true ∧ node.proper = true := by
  induction entries with
  | nil => cases hm
  | cons e rest ih =>
    obtain ⟨k, v⟩ := e
    simp only [properIn, Bool.and_eq_true] at h
    rcases List.mem_cons.mp hm with he | hm
    · obtain ⟨rfl, rfl⟩ := Prod.mk.inj he
      exact h.1
    · exact ih h.2 hm

theorem proper_dir {entries : List (Name × Node)} (h : (Node.dir entries).proper = true) :
    (entries.map (·.1)).Nodup ∧
      ∀ name node, (name, node) ∈ entries → properName name = true ∧ node.proper = true := by
  simp only [proper, Bool.and_eq_true, decide_eq_true_eq] at h
  exact ⟨h.1, fun name node hm => mem_of_properIn h.2 hm⟩

/-! ## Entries and places -/

theorem mem_of_child? {n child : Node} {name : Name} (h : n.child? name = some child) :
    ∃ entries, n = .dir entries ∧ (name, child) ∈ entries := by
  cases n with
  | file => cases h
  | link => cases h
  | dir entries =>
    obtain ⟨before, after, he, -⟩ := List.lookup_eq_some_iff.mp h
    have he : entries = before ++ (name, child) :: after := he
    exact ⟨entries, rfl, by rw [he]; simp⟩

theorem mem_child? {entries : List (Name × Node)} (hd : (entries.map (·.1)).Nodup) {name : Name} {child : Node}
    (hm : (name, child) ∈ entries) : (Node.dir entries).child? name = some child := by
  obtain ⟨before, after, rfl⟩ := List.append_of_mem hm
  refine List.lookup_eq_some_iff.mpr ⟨before, after, rfl, fun p hp => ?_⟩
  simp only [List.map_append, List.map_cons, List.nodup_append] at hd
  have := hd.2.2 p.1 (List.mem_map_of_mem hp) name (by simp)
  simpa using Ne.symm this

theorem node?_append (n : Node) (p q : List Name) : n.node? (p ++ q) = (n.node? p).bind (·.node? q) := by
  induction p generalizing n with
  | nil => rfl
  | cons name p ih =>
    rw [List.cons_append, node?, node?]
    cases n.child? name with
    | none => rfl
    | some child => exact ih child

theorem isDir_of_node?_cons {n m : Node} {name : Name} {p : List Name} (h : n.node? (name :: p) = some m) :
    n.isDir = true := by
  obtain ⟨child, hc, -⟩ := Option.bind_eq_some_iff.mp h
  obtain ⟨entries, rfl, -⟩ := mem_of_child? hc
  rfl

theorem proper_of_node? {n m : Node} {p : List Name} (hn : n.proper = true) (h : n.node? p = some m) :
    m.proper = true ∧ ∀ name ∈ p, properName name = true := by
  induction p generalizing n with
  | nil =>
    obtain rfl := Option.some.inj h
    exact ⟨hn, by simp⟩
  | cons name p ih =>
    obtain ⟨child, hc, hm⟩ := Option.bind_eq_some_iff.mp h
    obtain ⟨entries, rfl, hmem⟩ := mem_of_child? hc
    obtain ⟨hname, hchild⟩ := (proper_dir hn).2 name child hmem
    obtain ⟨hm, hp⟩ := ih hchild hm
    refine ⟨hm, fun x hx => ?_⟩
    rcases List.mem_cons.mp hx with rfl | hx
    · exact hname
    · exact hp x hx

end Node

/-! ## The text of a place -/

namespace FileSystem

theorem properName_iff {name : Name} : properName name = true ↔
    name ≠ [] ∧ '/' ∉ name ∧ name ≠ ['.'] ∧ name ≠ ['.', '.'] ∧ nameSize name ≤ nameLimit := by
  simp [properName, and_assoc]

theorem partOf_of_proper {name : Name} (h : properName name = true) : Path.partOf name = .name name := by
  obtain ⟨-, -, h1, h2, -⟩ := properName_iff.mp h
  rw [Path.partOf, if_neg h2, if_neg h1]

theorem split_placeText {place : List Name} (h : ∀ name ∈ place, properName name = true) :
    Text.split '/' (place.flatMap ('/' :: ·)) = [] :: place := by
  induction place with
  | nil => rfl
  | cons name place ih =>
    have ih := ih fun x hx => h x (List.mem_cons_of_mem _ hx)
    obtain ⟨-, hslash, -⟩ := properName_iff.mp (h name (by simp))
    rw [List.flatMap_cons, List.cons_append, Text.split_cons_sep]
    cases place with
    | nil => rw [List.flatMap_nil, List.append_nil, Text.split_of_no_sep hslash]
    | cons next place =>
      rw [List.flatMap_cons, List.cons_append, Text.split_cons_sep] at ih
      rw [List.flatMap_cons, List.cons_append, Text.split_append, Text.split_of_no_sep hslash, List.tail_eq_of_cons_eq ih]
      rfl

theorem placeText_of_ne_nil {place : List Name} (hne : place ≠ []) : placeText place = place.flatMap ('/' :: ·) := by
  cases place with
  | nil => exact absurd rfl hne
  | cons name place => rfl

theorem getLast?_placeText {place : List Name} (h : ∀ name ∈ place, properName name = true) (hne : place ≠ []) :
    (placeText place).getLast? ≠ some '/' := by
  obtain ⟨name, hlast⟩ := List.getLast?_isSome.mpr hne |> Option.isSome_iff_exists.mp
  obtain ⟨front, rfl⟩ := List.getLast?_eq_some_iff.mp hlast
  obtain ⟨hnil, hslash, -⟩ := properName_iff.mp (h name (by simp))
  rw [placeText_of_ne_nil hne, List.flatMap_append, List.flatMap_singleton,
    List.getLast?_append_of_ne_nil _ (by simp), List.getLast?_cons_of_ne_nil hnil]
  intro hc
  exact hslash (List.mem_of_getLast? hc)

/-- The parts of names that are cut apart, whether empty ones stand between them or not. -/
theorem partsOf_names {place : List Name} (h : ∀ name ∈ place, properName name = true) :
    (place.filter (!·.isEmpty)).map Path.partOf = place.map .name := by
  have all : place.filter (!·.isEmpty) = place := by
    rw [List.filter_eq_self]
    intro name hm
    simpa using (properName_iff.mp (h name hm)).1
  rw [all]
  exact List.map_congr_left fun name hm => partOf_of_proper (h name hm)

theorem steps_placeText {place : List Name} (h : ∀ name ∈ place, properName name = true) (hne : place ≠ []) :
    steps (placeText place) = .root :: place.map .name := by
  have pieces : Text.split '/' (placeText place) = [] :: place := by
    rw [placeText_of_ne_nil hne, split_placeText h]
  have named : (([] :: place).filter (!·.isEmpty)).map Path.partOf = place.map .name := by
    rw [List.filter_cons_of_neg (by simp), partsOf_names h]
  have first : (placeText place).head? = some '/' := by
    rw [placeText_of_ne_nil hne]
    cases place with
    | nil => exact absurd rfl hne
    | cons name place => rfl
  simp only [steps, pieces, named, first, if_neg (getLast?_placeText h hne), if_true]

/-! ## Where the text of a place leads -/

/-- Along directories, names lead from one place to the next. -/
theorem walk_names {top n : Node} (htop : top.proper = true) {followLast : Bool}
    (jump : List Name → List Path.Part → Except FileFault Target) (base place : List Name)
    (h : top.node? (base ++ place) = some n) (hlink : ∀ target, n ≠ .link target) :
    walk top followLast jump base (place.map .name) = .ok (.present (base ++ place)) := by
  induction place generalizing base with
  | nil => simp [walk]
  | cons name place ih =>
    have further : base ++ name :: place = base ++ [name] ++ place := by simp
    have hsize : ¬ nameLimit < nameSize name := by
      have := (properName_iff.mp ((Node.proper_of_node? htop h).2 name (by simp))).2.2.2.2
      omega
    have hdir : (top.node? base).any Node.isDir = true := by
      rw [Node.node?_append] at h
      obtain ⟨here, hhere, hbelow⟩ := Option.bind_eq_some_iff.mp h
      rw [hhere]
      exact Node.isDir_of_node?_cons hbelow
    rw [further, Node.node?_append] at h
    obtain ⟨child, hchild, hbelow⟩ := Option.bind_eq_some_iff.mp h
    have hnext : ∀ target, child ≠ .link target := by
      rintro target rfl
      cases place with
      | nil => exact hlink target (Option.some.inj hbelow).symm
      | cons next place => cases Node.isDir_of_node?_cons hbelow
    rw [List.map_cons, walk, hdir, if_neg (by decide), if_neg hsize, hchild, further]
    cases child with
    | link target => exact absurd rfl (hnext target)
    | file bytes => exact ih _ (by rw [Node.node?_append, hchild]; exact hbelow)
    | dir entries => exact ih _ (by rw [Node.node?_append, hchild]; exact hbelow)

/-! ## One step -/

/-- A step of a walk that reaches a place goes on from some place, or comes to a link. Neither depends on what follows
    the step, which decides only whether the link is followed. -/
theorem walk_cons {top : Node} {followLast : Bool} {jump : List Name → List Path.Part → Except FileFault Target}
    {goal place : List Name} {part : Path.Part} {rest : List Path.Part}
    (h : walk top followLast jump place (part :: rest) = .ok (.present goal)) :
    (∃ next, ∀ followLast' jump' rest',
      walk top followLast' jump' place (part :: rest') = walk top followLast' jump' next rest') ∨
    ∃ s target, top.node? (place ++ [s]) = some (.link target) ∧ ∀ followLast' jump' rest',
      walk top followLast' jump' place (part :: rest') =
        if rest'.isEmpty && !followLast' then .ok (.present (place ++ [s])) else jump' place (steps target ++ rest') := by
  cases part with
  | root => exact .inl ⟨[], fun _ _ _ => by rw [walk]⟩
  | here =>
    rw [walk] at h
    split at h
    · rename_i hd
      exact .inl ⟨place, fun _ _ _ => by rw [walk, if_pos hd]⟩
    · cases h
  | up =>
    rw [walk] at h
    split at h
    · rename_i hd
      exact .inl ⟨place.dropLast, fun _ _ _ => by rw [walk, if_pos hd]⟩
    · cases h
  | name s =>
    rw [walk] at h
    split at h
    · cases h
    rename_i hd
    split at h
    · cases h
    rename_i hs
    cases hn : top.node? (place ++ [s]) with
    | none =>
      simp only [hn] at h
      split at h <;> cases h
    | some n =>
      cases n with
      | link target =>
        exact .inr ⟨s, target, hn, fun _ _ _ => by simp only [walk, if_neg hd, if_neg hs, hn]⟩
      | file bytes => exact .inl ⟨place ++ [s], fun _ _ _ => by simp only [walk, if_neg hd, if_neg hs, hn]⟩
      | dir entries => exact .inl ⟨place ++ [s], fun _ _ _ => by simp only [walk, if_neg hd, if_neg hs, hn]⟩

/-! ## A link at the end of a path -/

/-- The place is reached, or a link that stands at the end of the path. -/
def ReachedItself (top : Node) (place : List Name) (r : Except FileFault Target) : Prop :=
  r = .ok (.present place) ∨ ∃ last target, r = .ok (.present last) ∧ top.node? last = some (.link target)

theorem walk_itself {top : Node} {jump jump' : List Name → List Path.Part → Except FileFault Target} {goal : List Name}
    (hj : ∀ place rest, jump place rest = .ok (.present goal) → ReachedItself top goal (jump' place rest))
    {place : List Name} {parts : List Path.Part} (h : walk top true jump place parts = .ok (.present goal)) :
    ReachedItself top goal (walk top false jump' place parts) := by
  induction parts generalizing place with
  | nil => exact .inl h
  | cons part rest ih =>
    rcases walk_cons h with ⟨next, hnext⟩ | ⟨s, target, hlink, hnext⟩
    · rw [hnext] at h ⊢
      exact ih h
    · rw [hnext, if_neg (by simp)] at h
      rw [hnext]
      split
      · exact .inr ⟨_, target, rfl, hlink⟩
      · exact hj _ _ h

theorem walkLinks_itself {top : Node} {goal : List Name} (links : Nat) {place : List Name} {parts : List Path.Part}
    (h : walkLinks top true links place parts = .ok (.present goal)) :
    ReachedItself top goal (walkLinks top false links place parts) := by
  induction links generalizing place parts with
  | zero =>
    refine walk_itself (fun place rest h => ?_) h
    cases h
  | succ links ih => exact walk_itself (fun place rest h => ih h) h

/-- Where the node that a path leads to stands. -/
theorem exists_place_of_node {fs : FileSystem} {path : List Char} {n : Node} (h : fs.node path = .ok n) :
    ∃ place, fs.target true path = .ok (.present place) ∧ fs.top.node? place = some n := by
  unfold node resolve at h
  cases ht : fs.target true path with
  | error fault => simp [ht] at h
  | ok reached =>
    cases reached with
    | vacant dir name => simp [ht] at h
    | present place =>
      cases hn : fs.top.node? place with
      | none => simp [ht, hn] at h
      | some m =>
        have : m = n := by simpa [ht, hn] using h
        exact ⟨place, rfl, this ▸ hn⟩

/-- A path that leads to a node leads to it itself, or to a link. -/
theorem nodeItself_of_node {fs : FileSystem} {path : List Char} {n : Node} (h : fs.node path = .ok n) :
    fs.nodeItself path = .ok n ∨ ∃ target, fs.nodeItself path = .ok (.link target) := by
  obtain ⟨place, ht, hn⟩ := exists_place_of_node h
  unfold FileSystem.target at ht
  split at ht
  · cases ht
  · rename_i he
    rcases walkLinks_itself 40 ht with hf | ⟨last, target, hf, hlink⟩
    · exact .inl (by simp [nodeItself, FileSystem.target, he, hf, hn])
    · exact .inr ⟨target, by simp [nodeItself, FileSystem.target, he, hf, hlink]⟩

/-! ## Proper trees -/

/-- A tree of directories with names that a file system can hold. -/
structure Proper (fs : FileSystem) : Prop where
  top_isDir : fs.top.isDir = true
  names : fs.top.proper = true

variable {fs : FileSystem} {place : List Name} {n : Node}

theorem target_placeText (hfs : fs.Proper) (h : fs.top.node? place = some n) (hlink : ∀ target, n ≠ .link target)
    (followLast : Bool) : fs.target followLast (placeText place) = .ok (.present place) := by
  have hne : (placeText place).isEmpty = false := by
    cases place with
    | nil => rfl
    | cons name place => rfl
  rw [target, hne, if_neg (by decide), walkLinks]
  by_cases hp : place = []
  · subst hp
    have top : (fs.top.node? []).any Node.isDir = true := hfs.top_isDir
    show walk _ _ _ _ [.root, .here] = _
    rw [walk, walk, if_pos top, walk]
  · rw [steps_placeText (Node.proper_of_node? hfs.names h).2 hp, walk]
    exact walk_names hfs.names _ [] place h hlink

theorem nodeItself_placeText (hfs : fs.Proper) (h : fs.top.node? place = some n) (hlink : ∀ target, n ≠ .link target) :
    fs.nodeItself (placeText place) = .ok n := by
  simp [nodeItself, target_placeText hfs h hlink, h]

/-- Reading the text of the place of a file gives the bytes of the file. -/
theorem read_placeText (hfs : fs.Proper) {bytes : ByteArray} (h : fs.top.node? place = some (.file bytes)) :
    fs.read (placeText place) = .ok bytes := by
  have := target_placeText hfs h (by simp) true
  simp [read, node, resolve, this, h]

end FileSystem

end MarkerScan
