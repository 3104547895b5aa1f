import MarkerScan.Proofs.Settings.Fields
import MarkerScan.Settings.Files
/-
  MarkerScan.Proofs.Settings.Precedence — which file or command line a setting comes from.

  A file is a layer: one that is not there gives nothing, and one that is there gives each
  field what it has for it (`Layer`). The files are laid over one another in their order,
  so for each field the last of them that has a value for it counts (`gives_layFiles`).
  Every value of a field can be written in a file (`fits_written`).

  Proved, over every three layers and every command line: `load_precedence`. The value of a
  field comes of what the layers have for this field alone.
-/

namespace MarkerScan.Settings

/-! ## Values as files have them -/

namespace Field

/-- A value of a field as a file has it. -/
def written (o : Option String) : (f : Field) → f.Kind → Value
  | rootPath, x | slackWebhookUrl, x | notionApiKey, x | notionDatabaseId, x =>
    .scalar o (x.elim .null .string)
  | includeExtensions, x | excludeFolders, x | excludePatterns, x | keywords, x =>
    .list o (x.map fun s => .scalar o (.string s))
  | concurrencyLimit, x | concurrency, x => .scalar o (.int x.count)
  | encodingMode, x => .scalar o (.string x.name)
  | logLevel, x => .scalar o (.string x)
  | maxAttempts, x => .scalar o (.int x.toNat)
  | baseDelayMs, x | timeoutSecs, x => .scalar o (.int x.toNat)

def ofSettings : List Field :=
  [rootPath, includeExtensions, excludeFolders, excludePatterns, keywords, concurrencyLimit, encodingMode, logLevel]

def ofDelivery : List Field :=
  [slackWebhookUrl, notionApiKey, notionDatabaseId, concurrency, maxAttempts, baseDelayMs, timeoutSecs]

end Field

theorem strings_written (o : Option String) (xs : List String) (key : String) :
    Reader.strings key (.list o (xs.map fun s => .scalar o (.string s))) = .ok xs := by
  have behind : ∀ n, (((xs.map fun s => Value.scalar o (.string s)).zipIdx n).mapM fun e =>
      Reader.string (key ++ "[" ++ toString e.2 ++ "]") e.1) = .ok xs := by
    induction xs with
    | nil => exact fun n => rfl
    | cons x xs ih =>
      intro n
      rw [List.map_cons, List.zipIdx_cons, List.mapM_cons, ih]
      rfl
  exact behind 0

theorem count_written (o : Option String) (n : Nat) (key : String) :
    Reader.count key (.scalar o (.int n)) = .ok n := by
  simp [Reader.count, Value.count]

theorem workers_written (o : Option String) (w : Workers) (key : String) :
    Reader.workers key (.scalar o (.int w.count)) = .ok w := by
  have whole : Workers.ofNat? w.count = some w := dif_pos ⟨w.positive, w.inRange⟩
  simp only [Reader.workers, count_written, bind, Except.bind, whole]
  rfl

/-- Every value of a field fits it as files have it. -/
theorem fits_written (o : Option String) (f : Field) (x : f.Kind) : f.Fits (f.written o x) x := by
  cases f with
  | rootPath | slackWebhookUrl | notionApiKey | notionDatabaseId => cases x <;> exact ⟨rfl, fun _ => rfl⟩
  | includeExtensions | excludeFolders | excludePatterns | keywords => exact ⟨rfl, strings_written o x⟩
  | concurrencyLimit | concurrency => exact ⟨rfl, workers_written o x⟩
  | encodingMode => cases x <;> exact ⟨rfl, fun _ => rfl⟩
  | logLevel => exact ⟨rfl, fun _ => rfl⟩
  | maxAttempts =>
    refine ⟨rfl, fun key => ?_⟩
    simp only [Field.written, Field.reader, count_written]
    exact congrArg _ UInt32.ofNat_toNat
  | baseDelayMs | timeoutSecs =>
    refine ⟨rfl, fun key => ?_⟩
    simp only [Field.written, Field.reader, count_written]
    exact congrArg _ UInt64.ofNat_toNat

/-- The entries for these fields, where anything is given. -/
def Given.entries (o : Option String) (given : Given) (fields : List Field) : List (String × Value) :=
  fields.filterMap fun f => (given f).map fun x => (f.key, f.written o x)

/-- A file that gives just this. -/
def Given.file (o : Option String) (given : Given) : Value :=
  .table o (("delivery", .table o (given.entries o Field.ofDelivery)) :: given.entries o Field.ofSettings)

section
variable {o : Option String} {given : Given} {fields : List Field}

theorem mem_entries {e : String × Value} (h : e ∈ given.entries o fields) : ∃ f ∈ fields, e.1 = f.key := by
  obtain ⟨f, hf, he⟩ := List.mem_filterMap.mp h
  obtain ⟨x, -, rfl⟩ := Option.map_eq_some_iff.mp he
  exact ⟨f, hf, rfl⟩

theorem entries_nodup (h : (fields.map Field.key).Nodup) : ((given.entries o fields).map (·.1)).Nodup := by
  induction fields with
  | nil => exact List.nodup_nil
  | cons f fields ih =>
    obtain ⟨once, rest⟩ := List.nodup_cons.mp h
    rw [Given.entries, List.filterMap_cons]
    cases given f with
    | none => exact ih rest
    | some x =>
      refine List.nodup_cons.mpr ⟨fun hm => ?_, ih rest⟩
      obtain ⟨e, he, same⟩ := List.mem_map.mp hm
      obtain ⟨f', hf', hkey⟩ := mem_entries he
      exact once (List.mem_map.mpr ⟨f', hf', hkey.symm.trans same⟩)

theorem lookup_entries (h : (fields.map Field.key).Nodup) {f : Field} (hf : f ∈ fields) :
    (given.entries o fields).lookup f.key = (given f).map (f.written o) := by
  induction fields with
  | nil => cases hf
  | cons f' fields ih =>
    obtain ⟨once, rest⟩ := List.nodup_cons.mp h
    have later : ∀ e ∈ given.entries o fields, e.1 ≠ f'.key := fun e he same => by
      obtain ⟨f, hf, hkey⟩ := mem_entries he
      exact once (List.mem_map.mpr ⟨f, hf, hkey.symm.trans same⟩)
    rw [Given.entries, List.filterMap_cons]
    rcases List.mem_cons.mp hf with rfl | hf
    · cases given f with
      | none => exact List.lookup_eq_none_iff.mpr fun e he => bne_iff_ne.mpr (later e he).symm
      | some x => exact List.lookup_cons_self
    · have apart : f.key ≠ f'.key := fun same => once (List.mem_map.mpr ⟨f, hf, same⟩)
      cases given f' with
      | none => exact ih rest hf
      | some x =>
        simp only [Option.map_some]
        rw [Json.lookup_cons, if_neg apart]
        exact ih rest hf

end

/-- Whatever is to be given, a file can give it. -/
theorem gives_file (o : Option String) (given : Given) : Mapping (given.file o) ∧ Gives (given.file o) given := by
  have keys : ∀ f : Field, Plain f.key ∧ f.key ≠ "delivery" := fun f => by cases f <;> decide
  have settings : (Field.ofSettings.map Field.key).Nodup := by decide
  have delivery : (Field.ofDelivery.map Field.key).Nodup := by decide
  have found : ∀ f : Field, f.find (given.file o) = (given f).map (f.written o) := fun f => by
    have top : f.inDelivery = false → f ∈ Field.ofSettings := by cases f <;> decide
    have nested : f.inDelivery = true → f ∈ Field.ofDelivery := by cases f <;> decide
    rw [Field.find, Given.file, Value.fields, Json.lookup_cons, if_pos rfl, Json.lookup_cons, if_neg (keys f).2]
    split
    · exact lookup_entries delivery (nested ‹_›)
    · exact lookup_entries settings (top (Bool.eq_false_iff.mpr ‹_›))
  have only : ∀ d, (given.file o).fields.lookup "delivery" = some d →
      d = .table o (given.entries o Field.ofDelivery) := fun d hd => (Option.some.inj hd).symm
  refine ⟨⟨fun e he => ?_, ?_, fun d hd => only d hd ▸ entries_nodup delivery⟩,
    ⟨rfl, fun d hd => only d hd ▸ rfl, fun f hf => ?_, fun f x hx => ?_⟩⟩
  · rcases List.mem_cons.mp he with rfl | he
    · exact (by decide : Plain "delivery")
    · obtain ⟨f, -, hkey⟩ := mem_entries he
      exact hkey ▸ (keys f).1
  · refine List.nodup_cons.mpr ⟨fun hm => ?_, entries_nodup settings⟩
    obtain ⟨e, he, same⟩ := List.mem_map.mp hm
    obtain ⟨f, -, hkey⟩ := mem_entries he
    exact (keys f).2 (hkey.symm.trans same)
  · rw [found, hf]
    rfl
  · exact ⟨_, by rw [found, hx]; rfl, fits_written o f x⟩

/-! ## Layers -/

/-- The file at a path, if there is one, gives these fields these values. -/
inductive Layer [FileFormats] (fs : FileSystem) (path : List Char) : Given → Prop
  | absent : fs.present path = false → Layer fs path .nothing
  | file {v : Value} {given : Given} : fs.present path = true → readFile fs path = .ok v → Mapping v →
      Gives v given → Layer fs path given

/-- The last layer that gives a field a value goes before the others. -/
theorem gives_layFiles [FileFormats] {fs : FileSystem} {paths : List (List Char)} {layers : List Given}
    (h : List.Forall₂ (Layer fs) paths layers) {v : Value} {lower : Given} (hv : Gives v lower) :
    ∃ v', layFiles fs paths v = .ok v' ∧ Gives v' (layers.foldl (fun lower upper => upper.above lower) lower) := by
  induction h generalizing v lower with
  | nil => exact ⟨v, rfl, hv⟩
  | @cons path given paths layers hlayer _ ih =>
    cases hlayer with
    | absent hp =>
      rw [layFiles, hp]
      exact ih hv
    | file hp hr hm hg =>
      rw [layFiles, hp, hr]
      exact ih (gives_lay hv hg hm)

/-- What the three files of settings give, each of which may be absent: the one in the directory for settings, the one
    in the working directory, and the one that is given by its path. -/
structure Layers [FileFormats] (fs : FileSystem) (directory : List Char) (explicit : Option String) (first second third : Given) :
    Prop where
  first : Layer fs (Path.joined directory "todoscout/config.yaml".toList) first
  second : Layer fs localFile second
  third : (explicit = none ∧ third = .nothing) ∨
    ∃ path, explicit = some path ∧ fs.present path.toList = true ∧ Layer fs path.toList third

theorem above_nothing (given : Given) : given.above .nothing = given := funext fun _ => Option.or_none

theorem nothing_above (given : Given) : Given.nothing.above given = given := funext fun _ => Option.none_or

/-- A field whose value is the same is so after the command line. -/
theorem get_override_congr {s s' : Settings} (o : Overrides) {f : Field} (h : s.get f = s'.get f) :
    (s.override o).get f = (s'.override o).get f := by
  by_cases folders : f = .excludeFolders
  · subst folders
    exact congrArg (· ++ o.excludeFolders) h
  · by_cases patterns : f = .excludePatterns
    · subst patterns
      exact congrArg (· ++ o.excludePatterns) h
    · rw [get_override s o folders patterns, get_override s' o folders patterns, h]

section
variable [FileFormats] {fs : FileSystem} {directory : List Char} {explicit : Option String} {first second third : Given}

theorem load_of_layers (h : Layers fs directory explicit first second third) :
    load fs directory explicit = .ok (ofGiven (third.above (second.above first))) := by
  rcases h.third with ⟨rfl, rfl⟩ | ⟨path, rfl, there, hpath⟩
  · obtain ⟨v, hv, gives⟩ := gives_layFiles (.cons h.first (.cons h.second .nil)) gives_nothing
    simp only [List.foldl_cons, List.foldl_nil, above_nothing] at gives
    rw [nothing_above, load]
    simp only [Option.toList_none, List.map_nil, List.find?_nil, List.append_nil, hv, read_of_gives gives]
  · obtain ⟨v, hv, gives⟩ := gives_layFiles (.cons h.first (.cons h.second (.cons hpath .nil))) gives_nothing
    simp only [List.foldl_cons, List.foldl_nil, above_nothing] at gives
    have found : [path.toList].find? (!fs.present ·) = none := by simp [there]
    rw [load]
    simp only [Option.toList_some, List.map_cons, List.map_nil, found, List.cons_append, List.nil_append, hv,
      read_of_gives gives]

/-- Whatever the files of settings give, the settings can be read. After the command line each field but the folders and
    patterns to skip has the value of the command line, or else that of the file given by its path, of the one in the
    working directory, of the one in the directory for settings, or its default; and to the folders and patterns, which
    come of the files in the same way, those of the command line are added. So a field has the same value with any other
    files that give it the same, whatever they give the others. -/
theorem load_precedence (h : Layers fs directory explicit first second third) (o : Overrides) :
    let file := fun f : Field => (third f).or ((second f).or (first f))
    ∃ s, load fs directory explicit = .ok s ∧
      (∀ f, f ≠ .excludeFolders → f ≠ .excludePatterns →
        (s.override o).get f = ((o.given f).or (file f)).getD (({} : Settings).get f)) ∧
      (s.override o).excludeFolders = (file .excludeFolders).getD defaultFolders ++ o.excludeFolders ∧
      (s.override o).excludePatterns = (file .excludePatterns).getD defaultPatterns ++ o.excludePatterns ∧
      ∀ {fs' directory' explicit' first' second' third'}, Layers fs' directory' explicit' first' second' third' →
        ∃ s', load fs' directory' explicit' = .ok s' ∧
          ∀ f, first f = first' f → second f = second' f → third f = third' f →
            (s'.override o).get f = (s.override o).get f := by
  refine ⟨_, load_of_layers h, fun f folders patterns => ?_, rfl, rfl, fun h' => ⟨_, load_of_layers h', ?_⟩⟩
  · rw [get_override _ o folders patterns, get_ofGiven, Option.getD_or]
    rfl
  · intro f hfirst hsecond hthird
    refine get_override_congr o ?_
    simp only [get_ofGiven, Given.above, hfirst, hsecond, hthird]

end

/-- Three files that each have something for delivery, and the last two of them for the keywords. -/
def layeredFiles : FileSystem :=
  ⟨.dir [("h".toList, .dir [("todoscout".toList, .dir [("config.yaml".toList,
      .file "delivery:\n  concurrency: 2\nlog_level: info\n".toUTF8)])]),
    (".todoscout.yaml".toList, .file "delivery: \x7bconcurrency: 4, timeout_secs: 5\x7d\nkeywords: [A]\n".toUTF8),
    ("c.json".toList, .file "\x7b\"keywords\": [\"B\"], \"delivery\": \x7b\"max_attempts\": 9\x7d\x7d".toUTF8)], []⟩

def firstGiven : Given
  | .logLevel => some "info"
  | .concurrency => some ⟨2, by decide, by decide⟩
  | _ => none

def secondGiven : Given
  | .keywords => some ["A"]
  | .concurrency => some ⟨4, by decide, by decide⟩
  | .timeoutSecs => some 5
  | _ => none

def thirdGiven : Given
  | .keywords => some ["B"]
  | .maxAttempts => some 9
  | _ => none

/-- The keywords are those of the last file alone, and delivery has what each file has for its fields. -/
theorem load_precedence_three_files :
    ∃ s, load layeredFiles "/h".toList (some "c.json") = .ok s ∧
      (s.override { logLevel := some "error", excludeFolders := ["x"] }).get .logLevel = "error" ∧
      (s.override { logLevel := some "error", excludeFolders := ["x"] }).excludeFolders = defaultFolders ++ ["x"] ∧
      s.get .keywords = ["B"] ∧ s.get .concurrency = ⟨4, by decide, by decide⟩ ∧ s.get .maxAttempts = 9 ∧
      s.get .timeoutSecs = 5 := by
  have layer : ∀ {path : List Char} (shown : String) (given : Given), layeredFiles.present path = true →
      readFile layeredFiles path = .ok (given.file (some shown)) → Layer layeredFiles path given :=
    fun _ _ hp hr => .file hp hr (gives_file _ _).1 (gives_file _ _).2
  have layers : Layers layeredFiles "/h".toList (some "c.json") firstGiven secondGiven thirdGiven :=
    ⟨layer "h/todoscout/config.yaml" _ (by decide +kernel) (by decide +kernel),
      layer ".todoscout.yaml" _ (by decide +kernel) (by decide +kernel),
      .inr ⟨"c.json", rfl, by decide +kernel, layer "c.json" _ (by decide +kernel) (by decide +kernel)⟩⟩
  obtain ⟨s, hs, single, folders, -, -⟩ := load_precedence layers { logLevel := some "error", excludeFolders := ["x"] }
  exact ⟨s, hs, single .logLevel (by decide) (by decide), folders, single .keywords (by decide) (by decide),
    single .concurrency (by decide) (by decide), single .maxAttempts (by decide) (by decide),
    single .timeoutSecs (by decide) (by decide)⟩

end MarkerScan.Settings
