import MarkerScan.Proofs.Tree.Place
import MarkerScan.Tree.Walk
/-
  MarkerScan.Proofs.Tree.Walk — what a walk lists.

  A walk lists below a directory what it lists below each entry, in the order of the names
  (`wanted_dir`), and nothing below an entry that is skipped (`listed`).

  Proved, for proper trees: a walk lists the places of the files with a wanted extension to
  which no directory leads that is skipped (`mem_wanted_iff`). Nothing on the way to a file
  that is listed is a link, and reading the text of its place gives its bytes.
-/

namespace MarkerScan

namespace Node

/-- What holds of files and links, and of a directory when it holds of its entries, holds of all nodes. -/
theorem induction {P : Node → Prop} (file : ∀ bytes, P (.file bytes)) (link : ∀ target, P (.link target))
    (dir : ∀ entries, (∀ name node, (name, node) ∈ entries → P node) → P (.dir entries)) (n : Node) : P n := by
  refine @Node.rec P (fun entries => ∀ name node, (name, node) ∈ entries → P node) (fun e => P e.2) file link dir
    ?_ ?_ ?_ n
  · intro name node hm
    cases hm
  · intro e entries he ih name node hm
    rcases List.mem_cons.mp hm with rfl | hm
    · exact he
    · exact ih name node hm
  · intro name node hn
    exact hn

/-- What a walk lists at or below one entry of the directory at `place`. -/
def listed (f : Filter) (place : List Name) (e : Name × Node) : List (List Name) :=
  if e.2.isDir && f.skips e.1 (pathText (place ++ [e.1])) then [] else e.2.wanted f (place ++ [e.1])

theorem wantedIn_eq_map (f : Filter) (place : List Name) (entries : List (Name × Node)) :
    wantedIn f place entries = entries.map fun e => (e.1, listed f place e) := by
  induction entries with
  | nil => rfl
  | cons e entries ih =>
    obtain ⟨name, node⟩ := e
    rw [List.map_cons, ← ih]
    cases node <;> rfl

theorem wanted_dir (f : Filter) (place : List Name) (entries : List (Name × Node)) :
    (Node.dir entries).wanted f place =
      ((entries.map fun e => (e.1, listed f place e)).mergeSort lowerName).flatMap (·.2) := by
  rw [wanted, wantedIn_eq_map]

theorem mem_wanted_dir {f : Filter} {place below : List Name} {entries : List (Name × Node)} :
    below ∈ (Node.dir entries).wanted f place ↔ ∃ e ∈ entries, below ∈ listed f place e := by
  simp only [wanted_dir, List.mem_flatMap, List.mem_mergeSort, List.mem_map]
  constructor
  · rintro ⟨x, ⟨e, he, rfl⟩, hb⟩
    exact ⟨e, he, hb⟩
  · rintro ⟨e, he, hb⟩
    exact ⟨_, ⟨e, he, rfl⟩, hb⟩

/-- No directory strictly between `place` and the node at `below` is skipped. -/
def Spared (f : Filter) (place below : List Name) : Prop :=
  ∀ above name rest, below = above ++ name :: rest → rest ≠ [] →
    f.skips name (pathText (place ++ above ++ [name])) = false

theorem spared_nil (f : Filter) (place : List Name) : Spared f place [] := by
  intro above name rest h
  simp at h

theorem spared_cons {f : Filter} {place below : List Name} {name : Name} :
    Spared f place (name :: below) ↔
      (below ≠ [] → f.skips name (pathText (place ++ [name])) = false) ∧ Spared f (place ++ [name]) below := by
  constructor
  · intro h
    refine ⟨fun hne => by simpa using h [] name below rfl hne, ?_⟩
    rintro above name' rest rfl hne
    simpa using h (name :: above) name' rest rfl hne
  · rintro ⟨here, further⟩ above name' rest h hne
    cases above with
    | nil =>
      obtain ⟨rfl, rfl⟩ := List.cons.inj h
      simpa using here hne
    | cons first above =>
      obtain ⟨rfl, rfl⟩ := List.cons.inj h
      simpa using further above name' rest rfl hne

/-- A walk lists the files with a wanted extension to which no directory that is skipped leads. -/
theorem mem_wanted_iff {f : Filter} {n : Node} (hn : n.proper = true) {place below : List Name} :
    below ∈ n.wanted f place ↔ ∃ rest bytes, below = place ++ rest ∧ n.node? rest = some (.file bytes) ∧
      Spared f place rest ∧ f.wants (below.getLastD []) = true := by
  induction n using Node.induction generalizing place with
  | file bytes =>
    have here : ∀ rest m, (Node.file bytes).node? rest = some m ↔ rest = [] ∧ m = .file bytes := by
      intro rest m
      cases rest with
      | nil => simp [node?, eq_comm]
      | cons name rest => simp [node?, child?, entries]
    rw [wanted]
    constructor
    · intro h
      split at h
      · rename_i hw
        obtain rfl := List.mem_singleton.mp h
        exact ⟨[], bytes, by simp, rfl, spared_nil f _, hw⟩
      · cases h
    · rintro ⟨rest, bytes', rfl, hrest, -, hw⟩
      obtain ⟨rfl, -⟩ := (here rest _).mp hrest
      rw [List.append_nil] at hw ⊢
      rw [if_pos hw]
      exact List.mem_singleton.mpr rfl
  | link target =>
    constructor
    · intro h
      cases h
    · rintro ⟨rest, bytes, -, hrest, -⟩
      cases rest with
      | nil => cases hrest
      | cons name rest => cases hrest
  | dir entries ih =>
    obtain ⟨hd, hentries⟩ := proper_dir hn
    rw [mem_wanted_dir]
    constructor
    · rintro ⟨⟨name, node⟩, hm, hb⟩
      rw [listed] at hb
      split at hb
      · cases hb
      · rename_i hskip
        obtain ⟨rest, bytes, rfl, hnode, hspared, hw⟩ := (ih name node hm (hentries name node hm).2).mp hb
        refine ⟨name :: rest, bytes, by simp, ?_, spared_cons.mpr ⟨fun hne => ?_, hspared⟩, hw⟩
        · rw [node?, mem_child? hd hm]
          exact hnode
        · obtain ⟨next, rest, rfl⟩ := List.exists_cons_of_ne_nil hne
          simpa [isDir_of_node?_cons hnode] using hskip
    · rintro ⟨rest, bytes, rfl, hrest, hspared, hw⟩
      cases rest with
      | nil => cases hrest
      | cons name rest =>
        obtain ⟨node, hchild, hnode⟩ := Option.bind_eq_some_iff.mp hrest
        obtain ⟨_, hdir, hm⟩ := mem_of_child? hchild
        obtain rfl := Node.dir.inj hdir
        obtain ⟨here, hspared⟩ := spared_cons.mp hspared
        refine ⟨(name, node), hm, ?_⟩
        have below : place ++ name :: rest ∈ node.wanted f (place ++ [name]) :=
          (ih name node hm (hentries name node hm).2).mpr ⟨rest, bytes, by simp, hnode, hspared, hw⟩
        rw [listed]
        split
        · rename_i hskip
          rw [Bool.and_eq_true] at hskip
          -- What is skipped is a directory, so more names follow to the file.
          have hne : rest ≠ [] := by
            rintro rfl
            obtain rfl := Option.some.inj hnode
            cases hskip.1
          rw [here hne] at hskip
          cases hskip.2
        · exact below

/-- The same of the walk that starts at the node. -/
theorem mem_wanted_nil_iff {f : Filter} {n : Node} (hn : n.proper = true) {place : List Name} :
    place ∈ n.wanted f [] ↔
      ∃ bytes, n.node? place = some (.file bytes) ∧ Spared f [] place ∧ f.wants (place.getLastD []) = true := by
  rw [mem_wanted_iff hn]
  constructor
  · rintro ⟨rest, bytes, hrest, h⟩
    obtain rfl : place = rest := hrest
    exact ⟨bytes, h⟩
  · rintro ⟨bytes, h⟩
    exact ⟨place, bytes, rfl, h⟩

/-- A walk lists files only. -/
theorem mem_wanted {f : Filter} {n : Node} (hn : n.proper = true) {place below : List Name}
    (h : below ∈ n.wanted f place) : ∃ rest bytes, below = place ++ rest ∧ n.node? rest = some (.file bytes) := by
  obtain ⟨rest, bytes, hb, hnode, -⟩ := (mem_wanted_iff hn).mp h
  exact ⟨rest, bytes, hb, hnode⟩

end Node

/-- From the text of the place of a directory, the walk goes through that directory. -/
theorem FileSystem.walkFrom_placeText {fs : FileSystem} (hfs : fs.Proper) (f : Filter) {place : List Name}
    {entries : List (Name × Node)} (h : fs.top.node? place = some (.dir entries)) :
    fs.walkFrom f (placeText place) = (Node.dir entries).wanted f [] := by
  have start : Path.isInput (placeText place) = false := by
    cases place with
    | nil => rfl
    | cons name place => simp [Path.isInput, placeText, Path.parts]
  rw [walkFrom, start, if_neg (by decide), nodeItself_placeText hfs h (by simp)]

end MarkerScan
