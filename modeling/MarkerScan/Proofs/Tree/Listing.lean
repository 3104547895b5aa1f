import MarkerScan.Proofs.Text.ByteOrder
import MarkerScan.Proofs.Tree.Walk
/-
  MarkerScan.Proofs.Tree.Listing — which files a walk lists, and in what order.

  Places are ordered name by name, and names by the bytes of their UTF-8 form (`Precedes`).
  The order of the whole list comes from that of the names in each directory: what is
  listed below an entry stands where its name does, so a place comes first when it is the
  first where the two part.

  Proved, for proper trees and every filter:
  (1) The list is strictly increasing, so no file is listed twice (`wanted_pairwise`).
  (2) A path that leads to a directory, through links or not, starts the walk in that
      directory (`walkFrom_of_node`), unless it is `-`.
  (3) Together, in terms of the names, patterns and extensions of the filter:
      `walkFrom_lists`. A start `-` lists nothing (`walkFrom_dash_lists_nothing`).
-/

namespace MarkerScan

/-! ## The order of names -/

namespace Name

theorem le_iff {a b : Name} : le a b = true ↔ a = b ∨ List.Lex (· < ·) a b := by
  induction a generalizing b with
  | nil =>
    cases b with
    | nil => simp [le]
    | cons c b => simp [le]
  | cons c a ih =>
    cases b with
    | nil => simp [le]
    | cons d b =>
      simp only [le, Bool.or_eq_true, decide_eq_true_eq, Bool.and_eq_true, beq_iff_eq, ih,
        List.cons_lex_cons_iff, List.cons.injEq]
      constructor
      · rintro (h | ⟨rfl, rfl | h⟩)
        · exact .inr (.inl h)
        · exact .inl ⟨rfl, rfl⟩
        · exact .inr (.inr ⟨rfl, h⟩)
      · rintro (⟨rfl, rfl⟩ | h | ⟨rfl, h⟩)
        · exact .inr ⟨rfl, .inl rfl⟩
        · exact .inl h
        · exact .inr ⟨rfl, .inr h⟩

theorem le_total (a b : Name) : (le a b || le b a) = true := by
  induction a generalizing b with
  | nil => rfl
  | cons c a ih =>
    cases b with
    | nil => rfl
    | cons d b =>
      rcases Nat.lt_trichotomy c.toNat d.toNat with h | h | h
      · have : c < d := h
        simp [le, this]
      · obtain rfl := Char.toNat_inj.mp h
        simpa [le] using ih b
      · have : d < c := h
        simp [le, this]

theorem le_trans {a b c : Name} (hab : le a b = true) (hbc : le b c = true) : le a c = true := by
  rcases le_iff.mp hab with rfl | hab
  · exact hbc
  rcases le_iff.mp hbc with rfl | hbc
  · exact le_iff.mpr (.inr hab)
  · exact le_iff.mpr (.inr (List.lex_trans (fun h h' => Nat.lt_trans h h') hab hbc))

end Name

/-- Name by name, and byte by byte in the first names that are not the same. -/
def Precedes (a b : List Name) : Prop :=
  List.Lex (List.Lex (· < ·)) (a.map Text.utf8) (b.map Text.utf8)

theorem precedes_append {place a b : List Name} (h : Precedes a b) : Precedes (place ++ a) (place ++ b) := by
  rw [Precedes, List.map_append, List.map_append]
  exact List.Lex.append_left _ h _

theorem precedes_irrefl (a : List Name) : ¬ Precedes a a :=
  List.lex_irrefl (fun x => List.lex_irrefl (fun b => Nat.lt_irrefl b.toNat) x) _

theorem precedes_trans {a b c : List Name} (hab : Precedes a b) (hbc : Precedes b c) : Precedes a c :=
  List.lex_trans (fun (h : List.Lex (· < ·) _ _) h' => List.lex_trans (fun k k' => UInt8.lt_trans k k') h h') hab hbc

/-- Two names in the order of a directory, of which the first is not the second. -/
theorem precedes_of_names {place a b : List Name} {x y : Name} (hle : Name.le x y = true) (hne : x ≠ y) :
    Precedes (place ++ x :: a) (place ++ y :: b) := by
  rcases Name.le_iff.mp hle with h | h
  · exact absurd h hne
  · exact precedes_append (.rel (Text.lex_utf8 h))

namespace Node

/-- The entries of a directory in the order of their names, each with what is listed of it. -/
theorem sorted_listed {entries : List (Name × Node)} (hd : (entries.map (·.1)).Nodup) (f : Filter) (place : List Name) :
    ((entries.map fun e => (e.1, listed f place e)).mergeSort lowerName).Pairwise
      fun a b => Name.le a.1 b.1 = true ∧ a.1 ≠ b.1 := by
  have sorted := @List.pairwise_mergeSort _ lowerName (fun a b c => Name.le_trans) (fun a b => Name.le_total a.1 b.1)
    (entries.map fun e => (e.1, listed f place e))
  refine sorted.and (List.pairwise_map.mp ?_)
  have names := (List.mergeSort_perm (entries.map fun e => (e.1, listed f place e)) lowerName).map (·.1)
  rw [List.map_map] at names
  exact (names.nodup_iff.mpr hd : List.Nodup _)

/-- The places a walk lists are strictly increasing. -/
theorem wanted_pairwise {f : Filter} {n : Node} (hn : n.proper = true) (place : List Name) :
    (n.wanted f place).Pairwise Precedes := by
  induction n using Node.induction generalizing place with
  | file bytes =>
    rw [wanted]
    split
    · exact List.pairwise_singleton _ _
    · exact .nil
  | link target => exact .nil
  | dir entries ih =>
    obtain ⟨hd, hentries⟩ := proper_dir hn
    have below : ∀ x ∈ (entries.map fun e => (e.1, listed f place e)).mergeSort lowerName,
        ∃ e ∈ entries, x = (e.1, listed f place e) := by
      intro x hx
      obtain ⟨e, he, rfl⟩ := List.mem_map.mp (List.mem_mergeSort.mp hx)
      exact ⟨e, he, rfl⟩
    have starts : ∀ e ∈ entries, ∀ p ∈ listed f place e, ∃ rest, p = place ++ e.1 :: rest := by
      rintro ⟨name, node⟩ he p hp
      rw [listed] at hp
      split at hp
      · cases hp
      · obtain ⟨rest, -, rfl, -⟩ := mem_wanted (hentries name node he).2 hp
        exact ⟨rest, by simp⟩
    rw [wanted_dir, List.pairwise_flatMap]
    constructor
    · intro x hx
      obtain ⟨⟨name, node⟩, he, rfl⟩ := below x hx
      show (listed f place (name, node)).Pairwise Precedes
      rw [listed]
      split
      · exact .nil
      · exact ih name node he (hentries name node he).2 _
    · refine (sorted_listed hd f place).imp_of_mem ?_
      rintro x y hx hy ⟨hle, hne⟩ p hp q hq
      obtain ⟨e, he, rfl⟩ := below x hx
      obtain ⟨e', he', rfl⟩ := below y hy
      obtain ⟨rest, rfl⟩ := starts e he p hp
      obtain ⟨rest', rfl⟩ := starts e' he' q hq
      exact precedes_of_names hle hne

end Node

/-! ## Where a walk starts -/

namespace FileSystem

/-- A walk goes through the directory its start leads to. -/
theorem walkFrom_of_node {fs : FileSystem} (f : Filter) {start : List Char} {entries : List (Name × Node)}
    (h : fs.node start = .ok (.dir entries)) :
    fs.walkFrom f start = if Path.isInput start then [] else (Node.dir entries).wanted f [] := by
  unfold walkFrom
  rcases nodeItself_of_node h with hi | ⟨target, hi⟩
  · rw [hi]
  · rw [hi, h]

end FileSystem

/-! ## What a filter asks of names -/

namespace Path

theorem extensionOf?_eq_some_iff {name ext : List Char} :
    extensionOf? name = some ext ↔ ∃ stem, name = stem ++ '.' :: ext ∧ stem ≠ [] ∧ '.' ∉ ext := by
  constructor
  · intro h
    have parts := List.takeWhile_append_dropWhile (p := (· != '.')) (l := name.reverse)
    have noDot : '.' ∉ name.reverse.takeWhile (· != '.') := by
      intro hm
      simpa using List.all_eq_true.mp List.all_takeWhile _ hm
    unfold extensionOf? at h
    cases hd : name.reverse.dropWhile (· != '.') with
    | nil => simp [hd] at h
    | cons c before =>
      simp only [hd] at h
      split at h
      · cases h
      · rename_i hb
        have hc : c = '.' := by
          have := List.head?_dropWhile_not (· != '.') name.reverse
          simpa [hd] using this
        obtain rfl := Option.some.inj h
        refine ⟨before.reverse, ?_, by simpa using hb, by simpa using noDot⟩
        rw [hd, hc] at parts
        simpa using congrArg List.reverse parts.symm
  · rintro ⟨stem, rfl, hstem, hext⟩
    have all : ∀ c ∈ ext.reverse, (c != '.') = true := by
      intro c hc
      have : c ≠ '.' := fun e => hext (by simpa [e] using hc)
      simpa using this
    have back : (stem ++ '.' :: ext).reverse = ext.reverse ++ '.' :: stem.reverse := by simp
    unfold extensionOf?
    rw [back, List.dropWhile_append_of_pos all, List.takeWhile_append_of_pos all]
    simp [hstem]

theorem parts_of_proper {name : Name} (h : properName name = true) : parts name = [.name name] := by
  obtain ⟨hne, hslash, hhere, -⟩ := FileSystem.properName_iff.mp h
  have named : ((Text.split '/' name).filter (!·.isEmpty)).map partOf = [.name name] := by
    rw [Text.split_of_no_sep hslash, List.filter_cons_of_pos (by simpa using hne)]
    simp [FileSystem.partOf_of_proper h]
  unfold parts
  rw [named]
  split
  · simp at hslash
  · simp at hslash
  · exact absurd rfl hhere
  · rfl

end Path

/-- An extension as it is written in a filter, without blanks, stars and dots in front of it. -/
def bareExtension (e : List Char) : List Char := ((Text.trim e).dropWhile (· == '*')).dropWhile (· == '.')

namespace Filter

variable [Glob.SizeLimit] {folders patterns extensions : List (List Char)}

theorem skips_build {name : Name} {path : List Char} :
    (build folders patterns extensions).skips name path = false ↔
      name ∉ folders ∧ ∀ p ∈ patterns, ∀ g, Glob.compile? p = some g → g.accepts path = false := by
  rw [skips, Bool.or_eq_false_iff]
  refine and_congr (by simp [build]) ?_
  rw [← Bool.not_eq_true, build, GlobSet.accepts_ofPatterns]
  simp

theorem mem_extensions_build {e : List Char} :
    Text.lower e ∈ (build folders patterns extensions).extensions ↔
      ∃ x ∈ extensions, bareExtension x ≠ [] ∧ Text.lower e = Text.lower (bareExtension x) := by
  simp only [build, List.mem_filter, List.mem_map]
  constructor
  · rintro ⟨⟨x, hx, he⟩, hne⟩
    have he : Text.lower (bareExtension x) = Text.lower e := he
    refine ⟨x, hx, fun h => ?_, he.symm⟩
    rw [← he, Text.lower_eq_nil_iff.mpr h] at hne
    cases hne
  · rintro ⟨x, hx, hne, he⟩
    refine ⟨⟨x, hx, he.symm⟩, ?_⟩
    rw [he]
    simpa [Text.lower_eq_nil_iff] using hne

theorem wants_build {name : Name} (hp : properName name = true) :
    (build folders patterns extensions).wants name = true ↔
      ∃ stem ext, name = stem ++ '.' :: ext ∧ stem ≠ [] ∧ '.' ∉ ext ∧
        ∃ x ∈ extensions, bareExtension x ≠ [] ∧ Text.lower ext = Text.lower (bareExtension x) := by
  have own : Path.extension? name = Path.extensionOf? name := by
    simp [Path.extension?, Path.fileName?, Path.parts_of_proper hp, Path.Part.name?]
  rw [wants, own, Option.any_eq_true]
  simp only [List.contains_iff_mem, mem_extensions_build, Path.extensionOf?_eq_some_iff]
  constructor
  · rintro ⟨ext, ⟨stem, h, hs, hd⟩, hx⟩
    exact ⟨stem, ext, h, hs, hd, hx⟩
  · rintro ⟨stem, ext, h, hs, hd, hx⟩
    exact ⟨ext, ⟨stem, h, hs, hd⟩, hx⟩

end Filter

/-! ## The files of a walk -/

namespace Node

variable [Glob.SizeLimit] {folders patterns extensions : List (List Char)} {place : List Name}

theorem spared_build : Spared (.build folders patterns extensions) [] place ↔
    ∀ above name below, place = above ++ name :: below → below ≠ [] →
      name ∉ folders ∧
        ∀ p ∈ patterns, ∀ g, Glob.compile? p = some g → g.accepts (pathText (above ++ [name])) = false := by
  simp only [Spared, Filter.skips_build, List.nil_append]

theorem wants_last_build (hp : ∀ name ∈ place, properName name = true) (hne : place ≠ []) :
    (Filter.build folders patterns extensions).wants (place.getLastD []) = true ↔
      ∃ above stem ext, place = above ++ [stem ++ '.' :: ext] ∧ stem ≠ [] ∧ '.' ∉ ext ∧
        ∃ x ∈ extensions, bareExtension x ≠ [] ∧ Text.lower ext = Text.lower (bareExtension x) := by
  obtain ⟨above, last, rfl⟩ : ∃ above last, place = above ++ [last] :=
    ⟨_, _, (List.dropLast_append_getLast hne).symm⟩
  rw [List.getLastD_concat, Filter.wants_build (hp last (by simp))]
  constructor
  · rintro ⟨stem, ext, rfl, h⟩
    exact ⟨above, stem, ext, rfl, h⟩
  · rintro ⟨above', stem, ext, he, h⟩
    obtain ⟨-, rfl⟩ := List.append_inj' he rfl |>.imp id (fun e => (List.cons.inj e).1)
    exact ⟨stem, ext, rfl, h⟩

/-- The files that are listed below the directory a walk starts at. -/
theorem mem_wanted_build {entries : List (Name × Node)} (hn : (Node.dir entries).proper = true) :
    place ∈ (Node.dir entries).wanted (.build folders patterns extensions) [] ↔
      (∃ bytes, (Node.dir entries).node? place = some (.file bytes)) ∧
      (∀ above name below, place = above ++ name :: below → below ≠ [] →
        name ∉ folders ∧
          ∀ p ∈ patterns, ∀ g, Glob.compile? p = some g → g.accepts (pathText (above ++ [name])) = false) ∧
      ∃ above stem ext, place = above ++ [stem ++ '.' :: ext] ∧ stem ≠ [] ∧ '.' ∉ ext ∧
        ∃ x ∈ extensions, bareExtension x ≠ [] ∧ Text.lower ext = Text.lower (bareExtension x) := by
  rw [mem_wanted_nil_iff hn, ← @spared_build _ folders patterns extensions place]
  have file : ∀ bytes, (Node.dir entries).node? place = some (.file bytes) →
      (∀ name ∈ place, properName name = true) ∧ place ≠ [] := by
    intro bytes hfile
    refine ⟨(proper_of_node? hn hfile).2, ?_⟩
    rintro rfl
    cases hfile
  constructor
  · rintro ⟨bytes, hfile, hspared, hw⟩
    exact ⟨⟨bytes, hfile⟩, hspared, (wants_last_build (file bytes hfile).1 (file bytes hfile).2).mp hw⟩
  · rintro ⟨⟨bytes, hfile⟩, hspared, hw⟩
    exact ⟨bytes, hfile, hspared, (wants_last_build (file bytes hfile).1 (file bytes hfile).2).mpr hw⟩

end Node

namespace FileSystem

/-- A walk that starts at a path of a directory lists the files below it that have one of the extensions and to
    which no directory leads that is skipped by its name or by its path; each once, and in the order of the bytes
    of their places. Only the path `-` lists nothing, whatever directory has that name. -/
theorem walkFrom_lists [Glob.SizeLimit] {fs : FileSystem} (hfs : fs.Proper) {start : List Char} {entries : List (Name × Node)}
    (hdir : fs.node start = .ok (.dir entries)) (folders patterns extensions : List (List Char)) :
    let files := fs.walkFrom (.build folders patterns extensions) start
    (Path.parts start ≠ [.name ['-']] →
      (∀ place, place ∈ files ↔
        (∃ bytes, (Node.dir entries).node? place = some (.file bytes)) ∧
        (∀ above name below, place = above ++ name :: below → below ≠ [] →
          name ∉ folders ∧
            ∀ p ∈ patterns, ∀ g, Glob.compile? p = some g → g.accepts (pathText (above ++ [name])) = false) ∧
        ∃ above stem ext, place = above ++ [stem ++ '.' :: ext] ∧ stem ≠ [] ∧ '.' ∉ ext ∧
          ∃ x ∈ extensions, bareExtension x ≠ [] ∧ Text.lower ext = Text.lower (bareExtension x)) ∧
      files.Nodup ∧ files.Pairwise Precedes) ∧
    (Path.parts start = [.name ['-']] → files = []) := by
  intro files
  have walk : files = if Path.isInput start then [] else (Node.dir entries).wanted _ [] := walkFrom_of_node _ hdir
  have input : Path.isInput start = true ↔ Path.parts start = [.name ['-']] := beq_iff_eq
  refine ⟨fun hstart => ?_, fun hstart => by rw [walk, if_pos (input.mpr hstart)]⟩
  rw [if_neg (mt input.mp hstart)] at walk
  obtain ⟨root, -, hroot⟩ := exists_place_of_node hdir
  have proper := (Node.proper_of_node? hfs.names hroot).1
  rw [walk]
  have sorted := Node.wanted_pairwise (f := .build folders patterns extensions) proper []
  refine ⟨fun place => Node.mem_wanted_build proper, sorted.imp ?_, sorted⟩
  rintro a b h rfl
  exact precedes_irrefl a h

/-- Below `w`, one directory is to be skipped by its name and another one by its path; `l` is a link to `w`. -/
def linkedTree : FileSystem :=
  ⟨.dir [("l".toList, .link "w".toList),
      ("w".toList, .dir [("a".toList, .dir [("out".toList, .dir [("x.rs".toList, .file ⟨#[]⟩)])]),
        ("gen".toList, .dir [("y.rs".toList, .file ⟨#[]⟩)]), ("out".toList, .dir [("z.RS".toList, .file ⟨#[]⟩)])])], []⟩

/-- From the link, the file in `out` is listed and the one in `a/out` is not: the pattern is for paths. -/
theorem walkFrom_lists_linked_tree :
    let files := linkedTree.walkFrom (.build ["gen".toList] ["a/*".toList] [" *.Rs".toList]) "l".toList
    ["out".toList, "z.RS".toList] ∈ files ∧ ["a".toList, "out".toList, "x.rs".toList] ∉ files := by
  have hfs : linkedTree.Proper := ⟨rfl, by decide +kernel⟩
  have hresolve : linkedTree.resolve "l".toList = .ok ["w".toList] := by decide +kernel
  have hdir : linkedTree.node "l".toList =
      .ok (.dir [("a".toList, .dir [("out".toList, .dir [("x.rs".toList, .file ⟨#[]⟩)])]),
      ("gen".toList, .dir [("y.rs".toList, .file ⟨#[]⟩)]), ("out".toList, .dir [("z.RS".toList, .file ⟨#[]⟩)])]) := by
    rw [node, hresolve]
    rfl
  have hglob : Glob.compile? "a/*".toList = some ⟨[.exactly 'a', .exactly '/', .segment]⟩ := by decide +kernel
  obtain ⟨listed, -⟩ := (walkFrom_lists hfs hdir ["gen".toList] ["a/*".toList] [" *.Rs".toList]).1 (by decide)
  refine ⟨(listed _).mpr ⟨⟨_, rfl⟩, ?_, ?_⟩, fun h => ?_⟩
  · intro above name below h hne
    have hlength := congrArg List.length h
    rw [List.length_append, List.length_cons] at hlength
    have : 0 < below.length := List.length_pos_iff.mpr hne
    obtain rfl : above = [] := List.length_eq_zero_iff.mp (by simp at hlength; omega)
    obtain rfl : "out".toList = name := (List.cons.inj h).1
    refine ⟨by decide, fun p hp g hg => ?_⟩
    rw [List.mem_singleton.mp hp, hglob] at hg
    obtain rfl := Option.some.inj hg
    decide +kernel
  · exact ⟨["out".toList], "z".toList, "RS".toList, rfl, by decide, by decide, _, List.mem_singleton_self _, by decide,
      by decide +kernel⟩
  · have := (((listed _).mp h).2.1 ["a".toList] "out".toList _ rfl (by simp)).2 _ (List.mem_singleton_self _) _ hglob
    exact absurd this (by decide +kernel)

/-- A directory of the name `-` with a file. -/
def dashTree : FileSystem := ⟨.dir [("-".toList, .dir [("a.rs".toList, .file ⟨#[]⟩)])], []⟩

/-- The path `-` leads to this directory, and a walk from there does not list its file. -/
theorem walkFrom_dash_lists_nothing :
    dashTree.node "-".toList = .ok (.dir [("a.rs".toList, .file ⟨#[]⟩)]) ∧
      (Filter.build [] [] ["rs".toList]).wants "a.rs".toList = true ∧
      dashTree.walkFrom (.build [] [] ["rs".toList]) "-".toList = [] := by
  have hresolve : dashTree.resolve "-".toList = .ok ["-".toList] := by decide +kernel
  refine ⟨?_, by decide +kernel, by decide +kernel⟩
  rw [node, hresolve]
  rfl

end FileSystem

end MarkerScan
