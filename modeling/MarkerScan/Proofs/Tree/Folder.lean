import Mathlib.Data.List.Sort
import MarkerScan.Proofs.Glob.Pattern
import MarkerScan.Proofs.Tree.Listing
import MarkerScan.Proofs.Tree.Relative
import MarkerScan.Settings.Basic
/-
  MarkerScan.Proofs.Tree.Folder — a directory to skip, given by its name or by a pattern.

  For every default name there is a default pattern, two `**` with the name between them.
  The name is compared with that of each directory; the pattern is matched with the whole
  path of one, and its runs hold no line feed. So the pattern finds a directory of this name
  when no name above it holds a line feed (`describes_ofFolder`).

  Proved, for proper trees, walked where no name has a backslash, and any other filter beside:
  - Skipping more directories leaves the files they do not lead to, in the order they have
    (`wanted_eq_filter`).
  - By its name a directory is skipped wherever it stands, and by its pattern where the
    names above it hold no line feed; so the two list the same files exactly when no file
    stands below a directory of this name that has a line feed above it
    (`walkFrom_folder_iff`). Where there is one, they differ (`walkFrom_folder_line_feed`).
-/

namespace MarkerScan

/-! ## The pattern of a name -/

namespace Glob

/-- The pattern of the directories of this name at any depth. -/
def ofFolder (name : Name) : List Char := "**/".toList ++ name ++ "/**".toList

example : Settings.defaultPatterns.map String.toList =
    Settings.defaultFolders.map fun name => ofFolder name.toList := by decide

/-- A name in which no character means anything in a pattern, nor parts a path. -/
def Literal (name : Name) : Prop := ∀ c ∈ name, c ≠ '/' ∧ c ≠ '\\' ∧ c ≠ '*' ∧ c ≠ '?'

instance (name : Name) : Decidable (Literal name) :=
  decidable_of_iff (name.all (fun c => c != '/' && c != '\\' && c != '*' && c != '?') = true) (by
    simp [Literal, and_assoc])

variable {name : Name} {path : List Char}

theorem piecesOf_literal (h : Literal name) : piecesOf (name ++ "/**".toList) = name.map .exactly ++ [.below] := by
  induction name with
  | nil => rfl
  | cons c name ih =>
    obtain ⟨hslash, -, hstar, hmark⟩ := h c (by simp)
    rw [List.cons_append, piecesOf.eq_6 c _ (fun hc _ => hslash hc) (fun _ hc _ => hstar hc) (fun _ hc _ => hstar hc)
      hstar hmark, ih fun x hx => h x (List.mem_cons_of_mem _ hx)]
    rfl

theorem splits_literal : Splits (name.map .exactly ++ [.below]) path ↔
    ∃ back, path = name ++ back ∧ Piece.below.Fits back := by
  induction name generalizing path with
  | nil =>
    rw [List.map_nil, List.nil_append, splits_cons]
    constructor
    · rintro ⟨a, b, rfl, ha, hb⟩
      rw [splits_nil] at hb
      exact ⟨a, by simp [hb], ha⟩
    · rintro ⟨back, hpath, hback⟩
      exact ⟨back, [], by simpa using hpath, hback, splits_nil.mpr rfl⟩
  | cons c name ih =>
    rw [List.map_cons, List.cons_append, splits_cons]
    constructor
    · rintro ⟨a, b, rfl, rfl, hb⟩
      obtain ⟨back, rfl, hback⟩ := ih.mp hb
      exact ⟨back, rfl, hback⟩
    · rintro ⟨back, rfl, hback⟩
      exact ⟨[c], name ++ back, rfl, rfl, ih.mpr ⟨back, rfl, hback⟩⟩

theorem splits_ofFolder (h : Literal name) : Splits (piecesOf (ofFolder name)) path ↔
    ∃ front back, path = front ++ (name ++ back) ∧ Piece.directories.Fits front ∧ Piece.below.Fits back := by
  have pieces : piecesOf (ofFolder name) = .directories :: (name.map .exactly ++ [.below]) := by
    rw [← piecesOf_literal h]
    rfl
  rw [pieces, splits_cons]
  constructor
  · rintro ⟨front, b, rfl, hfront, hb⟩
    obtain ⟨back, rfl, hback⟩ := splits_literal.mp hb
    exact ⟨front, back, rfl, hfront, hback⟩
  · rintro ⟨front, back, rfl, hfront, hback⟩
    exact ⟨front, _, rfl, hfront, splits_literal.mpr ⟨back, rfl, hback⟩⟩

end Glob

/-! ## The directories it describes -/

section
variable {name : Name} {place : List Name}

/-- The names in front of one in a path have a `/` behind them, and those behind it one in front. -/
theorem pathText_parts (above : List Name) (name : Name) (below : List Name) :
    pathText (above ++ name :: below) = above.flatMap (· ++ ['/']) ++ (name ++ below.flatMap ('/' :: ·)) := by
  induction above with
  | nil => exact Text.join_cons '/' name below
  | cons first above ih =>
    obtain ⟨second, rest, hrest⟩ : ∃ second rest, above ++ name :: below = second :: rest := by
      cases above with
      | nil => exact ⟨_, _, rfl⟩
      | cons second above => exact ⟨_, _, rfl⟩
    have text : pathText (first :: second :: rest) = first ++ '/' :: pathText (second :: rest) :=
      Text.join_cons_cons '/' ..
    rw [List.cons_append, hrest, text, ← hrest, ih]
    simp

theorem normalize_pathText (h : ∀ n ∈ place, '\\' ∉ n) : Glob.normalize (pathText place) = pathText place := by
  cases place with
  | nil => rfl
  | cons name below =>
    refine Glob.normalize_of_no_backslash fun hc => ?_
    rw [← List.nil_append (name :: below), pathText_parts] at hc
    simp only [List.flatMap_nil, List.nil_append, List.mem_append, List.mem_flatMap, List.mem_cons] at hc
    rcases hc with hc | ⟨n, hn, hc | hc⟩
    · exact h name (by simp) hc
    · cases hc
    · exact h n (List.mem_cons_of_mem _ hn) hc

/-- What stands in front of the name is cut into names without line feeds. -/
theorem split_directories {front : List Char} (h : Glob.Piece.directories.Fits front) (s : List Char) :
    ∃ above, Text.split '/' (front ++ s) = above ++ Text.split '/' s ∧ ∀ n ∈ above, '\n' ∉ n := by
  rcases h with rfl | ⟨run, rfl, hrun⟩
  · exact ⟨[], rfl, by simp⟩
  · refine ⟨Text.split '/' run, ?_, fun n hn hc => hrun (Text.mem_of_mem_split hn hc).1⟩
    rw [List.append_assoc]
    exact Text.split_append '/' run s

theorem split_below (hname : '/' ∉ name) {back : List Char} (h : Glob.Piece.below.Fits back) :
    ∃ below, Text.split '/' (name ++ back) = name :: below ∧ ∀ n ∈ below, '\n' ∉ n := by
  rcases h with rfl | ⟨run, rfl, hrun⟩
  · exact ⟨[], by rw [List.append_nil, Text.split_of_no_sep hname], by simp⟩
  · refine ⟨Text.split '/' run, ?_, fun n hn hc => hrun (Text.mem_of_mem_split hn hc).1⟩
    rw [Text.split_append, Text.split_of_no_sep hname]
    rfl

theorem fits_directories_of_names {above : List Name} (h : ∀ n ∈ above, '\n' ∉ n) :
    Glob.Piece.directories.Fits (above.flatMap (· ++ ['/'])) := by
  rcases List.eq_nil_or_concat above with rfl | ⟨init, last, rfl⟩
  · exact .inl rfl
  · refine .inr ⟨init.flatMap (· ++ ['/']) ++ last, by simp, ?_⟩
    simp only [List.concat_eq_append, List.mem_append, List.mem_singleton] at h
    simp only [List.mem_append, List.mem_flatMap, List.mem_singleton]
    rintro (⟨n, hn, hc | hc⟩ | hc)
    · exact h n (.inl hn) hc
    · cases hc
    · exact h last (.inr rfl) hc

theorem fits_below_of_names {below : List Name} (h : ∀ n ∈ below, '\n' ∉ n) :
    Glob.Piece.below.Fits (below.flatMap ('/' :: ·)) := by
  cases below with
  | nil => exact .inl rfl
  | cons n below =>
    refine .inr ⟨n ++ below.flatMap ('/' :: ·), rfl, ?_⟩
    simp only [List.mem_append, List.mem_flatMap, List.mem_cons]
    rintro (hc | ⟨m, hm, hc | hc⟩)
    · exact h n (by simp) hc
    · cases hc
    · exact h m (List.mem_cons_of_mem _ hm) hc

/-- The pattern of a name describes the places at or below a directory of that name, if no other name has a line
    feed. -/
theorem describes_ofFolder (hname : Glob.Literal name) (hplace : ∀ n ∈ place, properName n = true)
    (hback : ∀ n ∈ place, '\\' ∉ n) (hne : place ≠ []) :
    Glob.Describes (Glob.ofFolder name) (pathText place) ↔
      ∃ above below, place = above ++ name :: below ∧ (∀ n ∈ above, '\n' ∉ n) ∧ ∀ n ∈ below, '\n' ∉ n := by
  have hslash : '/' ∉ name := fun hc => (hname _ hc).1 rfl
  simp only [Glob.Describes, Glob.cut_iff, exists_eq_left, normalize_pathText hback, Glob.splits_ofFolder hname]
  constructor
  · rintro ⟨front, back, htext, hfront, hback⟩
    obtain ⟨above, habove, hfeed⟩ := split_directories hfront (name ++ back)
    obtain ⟨below, hbelow, hfeed'⟩ := split_below hslash hback
    refine ⟨above, below, ?_, hfeed, hfeed'⟩
    rw [← split_pathText hplace hne, htext, habove, hbelow]
  · rintro ⟨above, below, rfl, hfeed, hfeed'⟩
    exact ⟨_, _, pathText_parts above name below, fits_directories_of_names hfeed, fits_below_of_names hfeed'⟩

end

/-! ## Files that a directory leads to -/

/-- Whether a directory `name` leads to the file at a place, with no line feed in the names above it. -/
def leadsTo (name : Name) : List Name → Bool
  | [] => false
  | n :: below => !below.isEmpty && (n == name || !n.contains '\n' && leadsTo name below)

theorem leadsTo_iff {name : Name} {place : List Name} : leadsTo name place = true ↔
    ∃ above below, place = above ++ name :: below ∧ below ≠ [] ∧ ∀ n ∈ above, '\n' ∉ n := by
  induction place with
  | nil => simp [leadsTo]
  | cons n below ih =>
    simp only [leadsTo, Bool.and_eq_true, Bool.or_eq_true, Bool.not_eq_true', List.isEmpty_eq_false_iff, beq_iff_eq,
      List.contains_eq_mem, decide_eq_false_iff_not, ih]
    constructor
    · rintro ⟨hne, rfl | ⟨hn, above, rest, rfl, hrest, hfeed⟩⟩
      · exact ⟨[], below, rfl, hne, by simp⟩
      · exact ⟨n :: above, rest, rfl, hrest, by simpa [hn] using hfeed⟩
    · rintro ⟨above, rest, h, hrest, hfeed⟩
      cases above with
      | nil =>
        obtain ⟨rfl, rfl⟩ := List.cons.inj h
        exact ⟨hrest, .inl rfl⟩
      | cons m above =>
        obtain ⟨rfl, rfl⟩ := List.cons.inj h
        exact ⟨by simp, .inr ⟨hfeed n (by simp), above, rest, rfl, hrest, fun m hm => hfeed m (by simp [hm])⟩⟩

/-- The pattern describes a directory on the way to the file exactly when a directory `name` leads to it so. -/
theorem leadsTo_iff_describes {name : Name} {place : List Name} (hname : Glob.Literal name)
    (hplace : ∀ n ∈ place, properName n = true) (hback : ∀ n ∈ place, '\\' ∉ n) :
    leadsTo name place = true ↔ ∃ above m below, place = above ++ m :: below ∧ below ≠ [] ∧
      Glob.Describes (Glob.ofFolder name) (pathText (above ++ [m])) := by
  have describes : ∀ above m below, place = above ++ m :: below →
      (Glob.Describes (Glob.ofFolder name) (pathText (above ++ [m])) ↔ ∃ above' below', above ++ [m] =
        above' ++ name :: below' ∧ (∀ n ∈ above', '\n' ∉ n) ∧ ∀ n ∈ below', '\n' ∉ n) := by
    rintro above m below rfl
    have within : ∀ x ∈ above ++ [m], x ∈ above ++ m :: below := by
      intro x hx
      rcases List.mem_append.mp hx with hx | hx
      · simp [hx]
      · simp [List.mem_singleton.mp hx]
    exact describes_ofFolder hname (fun x hx => hplace x (within x hx)) (fun x hx => hback x (within x hx)) (by simp)
  rw [leadsTo_iff]
  constructor
  · rintro ⟨above, below, hp, hne, hfeed⟩
    exact ⟨above, name, below, hp, hne, (describes _ _ _ hp).mpr ⟨above, [], rfl, hfeed, by simp⟩⟩
  · rintro ⟨above, m, below, hp, hne, hd⟩
    obtain ⟨above', below', he, hfeed, -⟩ := (describes _ _ _ hp).mp hd
    refine ⟨above', below' ++ below, ?_, by simp [hne], hfeed⟩
    rw [hp, ← List.singleton_append, ← List.append_assoc, he, List.append_assoc, List.cons_append]

theorem mem_dropLast_of_parts {name : Name} {above below : List Name} (hne : below ≠ []) :
    name ∈ (above ++ name :: below).dropLast := by
  rw [List.dropLast_append_of_ne_nil (by simp), List.dropLast_cons_of_ne_nil hne]
  simp

theorem exists_first_of_mem_dropLast {name : Name} {place : List Name} (h : name ∈ place.dropLast) :
    ∃ above below, place = above ++ name :: below ∧ below ≠ [] ∧ name ∉ above := by
  obtain ⟨above, below, hd, hfirst⟩ := List.eq_append_cons_of_mem h
  have hne : place ≠ [] := by
    rintro rfl
    cases h
  refine ⟨above, below ++ [place.getLast hne], ?_, by simp, hfirst⟩
  rw [← List.cons_append, ← List.append_assoc, ← hd, List.dropLast_append_getLast]

/-- A directory `name` on the way counts if the names above the first one hold no line feed. -/
theorem leadsTo_iff_mem_dropLast {name : Name} {place : List Name} :
    (leadsTo name place = true ↔ name ∈ place.dropLast) ↔
      ∀ above below, place = above ++ name :: below → below ≠ [] → name ∉ above → ∀ n ∈ above, '\n' ∉ n := by
  constructor
  · rintro h above below rfl hne hfirst
    obtain ⟨above', below', hp, -, hfeed⟩ := leadsTo_iff.mp (h.mpr (mem_dropLast_of_parts hne))
    rcases List.append_eq_append_iff.mp hp with ⟨rest, rfl, -⟩ | ⟨rest, rfl, hrest⟩
    · exact fun n hn => hfeed n (List.mem_append_left _ hn)
    · cases rest with
      | nil => simpa using hfeed
      | cons m rest =>
        obtain ⟨rfl, -⟩ := List.cons.inj hrest
        exact absurd (by simp) hfirst
  · intro h
    constructor
    · intro hl
      obtain ⟨above, below, rfl, hne, -⟩ := leadsTo_iff.mp hl
      exact mem_dropLast_of_parts hne
    · intro hm
      obtain ⟨above, below, hp, hne, hfirst⟩ := exists_first_of_mem_dropLast hm
      exact leadsTo_iff.mpr ⟨above, below, hp, hne, h above below hp hne hfirst⟩

/-! ## Skipping one directory more -/

namespace Node

mutual
/-- All names at or below a node. -/
def names : Node → List Name
  | .file _ => []
  | .link _ => []
  | .dir entries => namesIn entries
termination_by structural n => n

def namesIn : List (Name × Node) → List Name
  | [] => []
  | (name, node) :: rest => name :: (node.names ++ namesIn rest)
termination_by structural entries => entries
end

theorem mem_namesIn {entries : List (Name × Node)} {name : Name} {node : Node} (h : (name, node) ∈ entries) :
    name ∈ namesIn entries ∧ ∀ m ∈ node.names, m ∈ namesIn entries := by
  induction entries with
  | nil => cases h
  | cons e rest ih =>
    obtain ⟨k, v⟩ := e
    rcases List.mem_cons.mp h with he | h
    · obtain ⟨rfl, rfl⟩ := Prod.mk.inj he
      exact ⟨by simp [namesIn], fun m hm => by simp [namesIn, hm]⟩
    · obtain ⟨hname, hbelow⟩ := ih h
      exact ⟨by simp [namesIn, hname], fun m hm => by simp [namesIn, hbelow m hm]⟩

theorem mem_names_of_node? {n m : Node} {place : List Name} (h : n.node? place = some m) :
    ∀ name ∈ place, name ∈ n.names := by
  induction place generalizing n with
  | nil => simp
  | cons first place ih =>
    obtain ⟨child, hc, hm⟩ := Option.bind_eq_some_iff.mp h
    obtain ⟨entries, rfl, hmem⟩ := mem_of_child? hc
    obtain ⟨hfirst, hbelow⟩ := mem_namesIn hmem
    intro name hname
    rcases List.mem_cons.mp hname with rfl | hname
    · exact hfirst
    · exact hbelow name (ih hm name hname)

variable {f f' : Filter} {n : Node}

/-- What a walk lists with one filter is what it lists with another one, without the files that are left out. -/
theorem wanted_eq_filter (hn : n.proper = true) {keep : List Name → Bool}
    (h : ∀ place ∈ n.wanted f [], place ∈ n.wanted f' [] ↔ keep place = true)
    (hsub : ∀ place ∈ n.wanted f' [], place ∈ n.wanted f []) : n.wanted f' [] = (n.wanted f []).filter keep := by
  have : Std.Irrefl Precedes := ⟨precedes_irrefl⟩
  have : Std.Antisymm Precedes := ⟨fun a b hab hba => absurd (precedes_trans hab hba) (precedes_irrefl a)⟩
  refine List.Pairwise.eq_of_mem_iff (wanted_pairwise hn []) ((wanted_pairwise hn []).filter keep) fun place => ?_
  rw [List.mem_filter]
  exact ⟨fun hp => ⟨hsub place hp, (h place (hsub place hp)).mp hp⟩, fun ⟨hp, hk⟩ => (h place hp).mpr hk⟩

/-- A filter that skips the directories of another one and some more, told by their names and paths. -/
theorem spared_more {more : Name → List Char → Prop}
    (h : ∀ name path, f'.skips name path = false ↔ f.skips name path = false ∧ ¬ more name path) {place : List Name} :
    Spared f' [] place ↔ Spared f [] place ∧ ∀ above name below, place = above ++ name :: below → below ≠ [] →
      ¬ more name (pathText (above ++ [name])) := by
  simp only [Spared, h, List.nil_append]
  constructor
  · intro hs
    exact ⟨fun above name below hp hne => (hs above name below hp hne).1,
      fun above name below hp hne => (hs above name below hp hne).2⟩
  · rintro ⟨hs, hm⟩ above name below hp hne
    exact ⟨hs above name below hp hne, hm above name below hp hne⟩

/-- It lists the files to which none of these directories leads. -/
theorem wanted_more (more : Name → List Char → Prop) (hn : n.proper = true)
    (h : ∀ name path, f'.skips name path = false ↔ f.skips name path = false ∧ ¬ more name path)
    (hw : f'.extensions = f.extensions) {leads : List Name → Bool}
    (hl : ∀ place bytes, n.node? place = some (.file bytes) → (leads place = true ↔
      ∃ above name below, place = above ++ name :: below ∧ below ≠ [] ∧ more name (pathText (above ++ [name])))) :
    n.wanted f' [] = (n.wanted f []).filter (!leads ·) := by
  have wants : ∀ path, f'.wants path = f.wants path := fun path => by rw [Filter.wants, Filter.wants, hw]
  have kept : ∀ place bytes, n.node? place = some (.file bytes) →
      (Spared f' [] place ↔ Spared f [] place ∧ (!leads place) = true) := by
    intro place bytes hfile
    rw [spared_more h, Bool.not_eq_true', ← Bool.not_eq_true, hl place bytes hfile]
    simp only [not_exists, not_and]
  refine wanted_eq_filter hn (fun place hp => ?_) fun place hp => ?_
  · obtain ⟨bytes, hfile, hs, hwanted⟩ := (mem_wanted_nil_iff hn).mp hp
    rw [mem_wanted_nil_iff hn]
    constructor
    · rintro ⟨-, -, hs', -⟩
      exact ((kept place bytes hfile).mp hs').2
    · intro hk
      exact ⟨bytes, hfile, (kept place bytes hfile).mpr ⟨hs, hk⟩, (wants _).trans hwanted⟩
  · obtain ⟨bytes, hfile, hs, hwanted⟩ := (mem_wanted_nil_iff hn).mp hp
    exact (mem_wanted_nil_iff hn).mpr
      ⟨bytes, hfile, ((kept place bytes hfile).mp hs).1, (wants _).symm.trans hwanted⟩

end Node

namespace FileSystem

variable {fs : FileSystem}

theorem exists_place_of_nodeItself {path : List Char} {n : Node} (h : fs.nodeItself path = .ok n) :
    ∃ place, fs.top.node? place = some n := by
  unfold nodeItself at h
  split at h
  · rename_i place _
    cases hn : fs.top.node? place with
    | none => simp [hn] at h
    | some m =>
      have : m = n := by simpa [hn] using h
      exact ⟨place, this ▸ hn⟩
  · cases h
  · cases h

/-- What holds of the walk through every directory holds of the walk from every start. -/
theorem walkFrom_eq_filter {f f' : Filter} (keep : List Name → Bool) (start : keep [] = true)
    (hw : f'.extensions = f.extensions) (path : List Char)
    (h : ∀ root n, fs.top.node? root = some n → fs.nodeItself path = .ok n ∨ fs.node path = .ok n →
      n.wanted f' [] = (n.wanted f []).filter keep) :
    fs.walkFrom f' path = (fs.walkFrom f path).filter keep := by
  have itself : (if f'.wants path then [[]] else []) = (if f.wants path then [[]] else []).filter keep := by
    rw [Filter.wants, Filter.wants, hw]
    split
    · rw [List.filter_cons_of_pos start, List.filter_nil]
    · rfl
  unfold walkFrom
  split
  · rfl
  · cases hi : fs.nodeItself path with
    | error fault => rfl
    | ok n =>
      cases n with
      | file bytes => exact itself
      | dir entries =>
        obtain ⟨root, hroot⟩ := exists_place_of_nodeItself hi
        exact h root _ hroot (.inl hi)
      | link target =>
        simp only
        split
        · exact itself
        · rename_i hnode
          obtain ⟨root, -, hroot⟩ := exists_place_of_node hnode
          exact h root _ hroot (.inr hnode)
        · rfl

section
variable [Glob.SizeLimit] {name : Name} (folders patterns extensions : List (List Char)) (start : List Char)

/-- By its name a directory is skipped wherever it stands. -/
theorem walkFrom_folder (hfs : fs.Proper) :
    fs.walkFrom (.build (folders ++ [name]) patterns extensions) start =
      (fs.walkFrom (.build folders patterns extensions) start).filter fun place => !place.dropLast.contains name := by
  refine walkFrom_eq_filter (fun place => !place.dropLast.contains name) rfl (by rfl) start fun root n hroot _ => ?_
  refine Node.wanted_more (fun m _ => m = name) (Node.proper_of_node? hfs.names hroot).1 (fun m path => ?_) (by rfl)
    fun place bytes _ => ?_
  · simp only [Filter.skips_build, List.mem_append, List.mem_singleton, not_or]
    exact and_right_comm
  · rw [List.contains_iff_mem]
    constructor
    · intro h
      obtain ⟨above, below, hp, hne, -⟩ := exists_first_of_mem_dropLast h
      exact ⟨above, name, below, hp, hne, rfl⟩
    · rintro ⟨above, _, below, rfl, hne, rfl⟩
      exact mem_dropLast_of_parts hne

/-- By its pattern a directory is skipped unless a name above it holds a line feed. -/
theorem walkFrom_pattern (hfs : fs.Proper)
    (hback : ∀ n, fs.nodeItself start = .ok n ∨ fs.node start = .ok n → ∀ m ∈ n.names, '\\' ∉ m)
    (hname : Glob.Literal name) (hok : (Glob.compile? (Glob.ofFolder name)).isSome = true) :
    fs.walkFrom (.build folders (patterns ++ [Glob.ofFolder name]) extensions) start =
      (fs.walkFrom (.build folders patterns extensions) start).filter (!leadsTo name ·) := by
  obtain ⟨g, hg⟩ := Option.isSome_iff_exists.mp hok
  refine walkFrom_eq_filter (!leadsTo name ·) rfl (by rfl) start fun root n hroot hstart => ?_
  have hn := (Node.proper_of_node? hfs.names hroot).1
  refine Node.wanted_more (fun _ path => Glob.Describes (Glob.ofFolder name) path) hn (fun m path => ?_) (by rfl)
    fun place bytes hfile => ?_
  · simp only [Filter.skips_build, List.mem_append, List.mem_singleton]
    rw [← Glob.accepts_iff hg, Bool.not_eq_true]
    constructor
    · rintro ⟨hm, hp⟩
      exact ⟨⟨hm, fun p hmem => hp p (.inl hmem)⟩, hp _ (.inr rfl) g hg⟩
    · rintro ⟨⟨hm, hp⟩, hq⟩
      refine ⟨hm, fun p hmem g' hg' => ?_⟩
      rcases hmem with hmem | rfl
      · exact hp p hmem g' hg'
      · obtain rfl := Option.some.inj (hg.symm.trans hg')
        exact hq
  · have proper := (Node.proper_of_node? hn hfile).2
    have plain := fun m hm => hback n hstart m (Node.mem_names_of_node? hfile m hm)
    exact leadsTo_iff_describes hname proper plain

end

/-- A directory to skip may be given by its name or by the pattern of its name. By its name it is skipped wherever it
    stands, and by the pattern unless a name above it holds a line feed; the other files are listed as they are
    without either, in their order. So the two list the same files exactly when on the way to each of these files no
    name above the first directory of that name holds a line feed. -/
theorem walkFrom_folder_iff [Glob.SizeLimit] {fs : FileSystem} (hfs : fs.Proper) {start : List Char}
    (hback : ∀ n, fs.nodeItself start = .ok n ∨ fs.node start = .ok n → ∀ m ∈ n.names, '\\' ∉ m) {name : Name}
    (hname : Glob.Literal name) (hok : (Glob.compile? (Glob.ofFolder name)).isSome = true)
    (folders patterns extensions : List (List Char)) :
    let plain := fs.walkFrom (.build folders patterns extensions) start
    let byName := fs.walkFrom (.build (folders ++ [name]) patterns extensions) start
    let byPattern := fs.walkFrom (.build folders (patterns ++ [Glob.ofFolder name]) extensions) start
    byName = plain.filter (fun place => !place.dropLast.contains name) ∧
    byPattern = plain.filter (fun place => !leadsTo name place) ∧
    (byName = byPattern ↔ ∀ place ∈ plain, ∀ above below, place = above ++ name :: below → below ≠ [] →
      name ∉ above → ∀ n ∈ above, '\n' ∉ n) := by
  intro plain byName byPattern
  have named : byName = plain.filter _ := walkFrom_folder folders patterns extensions start hfs
  have described : byPattern = plain.filter _ := walkFrom_pattern folders patterns extensions start hfs hback hname hok
  refine ⟨named, described, ?_⟩
  simp only [← leadsTo_iff_mem_dropLast]
  rw [named, described]
  constructor
  · intro same place hp
    have := congrArg (place ∈ ·) same
    simp only [List.mem_filter, hp, true_and, Bool.not_eq_true', List.contains_eq_mem, ← Bool.not_eq_true,
      decide_eq_true_eq, eq_iff_iff] at this
    exact (not_iff_not.mp this).symm
  · intro same
    refine List.filter_congr fun place hp => ?_
    rw [Bool.eq_iff_iff.mpr (same place hp |>.trans List.contains_iff_mem.symm)]

/-- Two directories `out`, one of them below another one, and one whose name only starts with it. -/
def outTree : FileSystem :=
  ⟨.dir [("a".toList, .dir [("out".toList, .dir [("x.rs".toList, .file ⟨#[]⟩)])]),
      ("out".toList, .dir [("y.rs".toList, .file ⟨#[]⟩)]),
      ("outer".toList, .dir [("z.rs".toList, .file ⟨#[]⟩)])], []⟩

/-- Either way both of them are skipped, and the third one is not. -/
theorem walkFrom_folder_iff_out :
    outTree.walkFrom (.build ["out".toList] [] ["rs".toList]) "/".toList = [["outer".toList, "z.rs".toList]] ∧
      outTree.walkFrom (.build [] [Glob.ofFolder "out".toList] ["rs".toList]) "/".toList =
        [["outer".toList, "z.rs".toList]] := by
  have hfs : outTree.Proper := ⟨rfl, by decide +kernel⟩
  have plain : outTree.walkFrom (.build [] [] ["rs".toList]) "/".toList = [["a".toList, "out".toList, "x.rs".toList],
      ["out".toList, "y.rs".toList], ["outer".toList, "z.rs".toList]] := by
    show outTree.walkFrom _ (placeText []) = _
    rw [walkFrom_placeText hfs _ rfl, Node.wanted_dir, List.mergeSort_of_pairwise]
    · decide +kernel
    · decide +kernel
  have hback : ∀ n, outTree.nodeItself "/".toList = .ok n ∨ outTree.node "/".toList = .ok n →
      ∀ m ∈ n.names, '\\' ∉ m := by
    rintro n (hn | hn) <;> obtain rfl : outTree.top = n := Except.ok.inj hn <;> decide
  obtain ⟨named, described, -⟩ := walkFrom_folder_iff hfs hback (by decide : Glob.Literal "out".toList) (by decide)
    [] [] ["rs".toList]
  rw [plain] at named described
  exact ⟨named, described⟩

/-- A directory `out` below one that has a line feed in its name. -/
def feedTree : FileSystem :=
  ⟨.dir [("a\nb".toList, .dir [("out".toList, .dir [("x.rs".toList, .file ⟨#[]⟩)])])], []⟩

/-- By its name the directory is skipped and by its pattern it is not. -/
theorem walkFrom_folder_line_feed :
    feedTree.walkFrom (.build ["out".toList] [] ["rs".toList]) "/".toList = [] ∧
      feedTree.walkFrom (.build [] [Glob.ofFolder "out".toList] ["rs".toList]) "/".toList =
        [["a\nb".toList, "out".toList, "x.rs".toList]] := by
  decide +kernel

end FileSystem

end MarkerScan
