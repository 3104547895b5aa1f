import MarkerScan.Settings.Decode
import MarkerScan.Proofs.Settings.Layers
/-
  MarkerScan.Proofs.Settings.Fields — the settings, field by field.

  Each field of the settings, those of delivery among them, has a key and a way to read
  its value (`Field`). A table gives a field nothing when it has no such key, and
  otherwise what stands under it, read on its own (`Gives`).

  Proved:
  - `read_of_gives`: the settings read from a table have in each field what the table gives
    it, or else its default.
  - `gives_lay`: a file that is laid over a table gives each field what it has for it, and
    leaves every other field what the table gives it.
  - `get_override`: the same of the command line, which adds to the folders and patterns to
    skip and replaces everything else.
-/

namespace MarkerScan.Settings

/-! ## Fields -/

/-- The fields of the settings, those of delivery among them. -/
inductive Field where
  | rootPath
  | includeExtensions
  | excludeFolders
  | excludePatterns
  | keywords
  | concurrencyLimit
  | encodingMode
  | logLevel
  | slackWebhookUrl
  | notionApiKey
  | notionDatabaseId
  | concurrency
  | maxAttempts
  | baseDelayMs
  | timeoutSecs
  deriving DecidableEq, Repr

namespace Field

/-- What a field holds. -/
abbrev Kind : Field → Type
  | rootPath | slackWebhookUrl | notionApiKey | notionDatabaseId => Option String
  | includeExtensions | excludeFolders | excludePatterns | keywords => List String
  | concurrencyLimit | concurrency => Workers
  | encodingMode => EncodingMode
  | logLevel => String
  | maxAttempts => UInt32
  | baseDelayMs | timeoutSecs => UInt64

def inDelivery : Field → Bool
  | slackWebhookUrl | notionApiKey | notionDatabaseId | concurrency | maxAttempts | baseDelayMs | timeoutSecs => true
  | _ => false

def key : Field → String
  | rootPath => "root_path"
  | includeExtensions => "include_extensions"
  | excludeFolders => "exclude_folders"
  | excludePatterns => "exclude_patterns"
  | keywords => "keywords"
  | concurrencyLimit => "concurrency_limit"
  | encodingMode => "encoding_mode"
  | logLevel => "log_level"
  | slackWebhookUrl => "slack_webhook_url"
  | notionApiKey => "notion_api_key"
  | notionDatabaseId => "notion_database_id"
  | concurrency => "concurrency"
  | maxAttempts => "max_attempts"
  | baseDelayMs => "base_delay_ms"
  | timeoutSecs => "timeout_secs"

open Reader in
/-- How the value of a field is read. -/
def reader : (f : Field) → Reader f.Kind
  | rootPath | slackWebhookUrl | notionApiKey | notionDatabaseId => optional string
  | includeExtensions | excludeFolders | excludePatterns | keywords => strings
  | concurrencyLimit | concurrency => workers
  | encodingMode => mode
  | logLevel => string
  | maxAttempts => fun key v => (count key v).map UInt32.ofNat
  | baseDelayMs | timeoutSecs => fun key v => (count key v).map UInt64.ofNat

/-- What stands in a table for a field. -/
def find (f : Field) (v : Value) : Option Value :=
  if f.inDelivery then (v.fields.lookup "delivery").bind fun d => d.fields.lookup f.key else v.fields.lookup f.key

/-- The value is read as `x`, wherever it stands, and it is replaced as a whole. -/
structure Fits (f : Field) (v : Value) (x : f.Kind) : Prop where
  single : v.isTable = false
  reads : ∀ key, f.reader key v = .ok x

end Field

/-- What a field of the settings is. -/
def get (s : Settings) : (f : Field) → f.Kind
  | .rootPath => s.rootPath
  | .includeExtensions => s.includeExtensions
  | .excludeFolders => s.excludeFolders
  | .excludePatterns => s.excludePatterns
  | .keywords => s.keywords
  | .concurrencyLimit => s.concurrencyLimit
  | .encodingMode => s.encodingMode
  | .logLevel => s.logLevel
  | .slackWebhookUrl => s.delivery.slackWebhookUrl
  | .notionApiKey => s.delivery.notionApiKey
  | .notionDatabaseId => s.delivery.notionDatabaseId
  | .concurrency => s.delivery.concurrency
  | .maxAttempts => s.delivery.maxAttempts
  | .baseDelayMs => s.delivery.baseDelayMs
  | .timeoutSecs => s.delivery.timeoutSecs

/-- What each field is given, if it is given anything. -/
abbrev Given := (f : Field) → Option f.Kind

/-- Nothing is given. -/
def Given.nothing : Given := fun _ => none

/-- What the upper one gives goes before what the lower one gives. -/
def Given.above (upper lower : Given) : Given := fun f => (upper f).or (lower f)

/-- What a command line gives each field that it replaces. -/
def Overrides.given (o : Overrides) : Given
  | .rootPath => o.rootPath.map some
  | .includeExtensions => o.includeExtensions
  | .keywords => o.keywords
  | .concurrencyLimit => o.concurrencyLimit
  | .encodingMode => o.encodingMode
  | .logLevel => o.logLevel
  | .slackWebhookUrl => o.slackWebhookUrl.map some
  | .notionApiKey => o.notionApiKey.map some
  | .notionDatabaseId => o.notionDatabaseId.map some
  | _ => none

/-! ## What a table gives -/

/-- A table gives these fields these values, and nothing to the others. -/
structure Gives (v : Value) (given : Given) : Prop where
  table : v.isTable = true
  delivery : ∀ d, v.fields.lookup "delivery" = some d → d.isTable = true
  absent : ∀ f, given f = none → f.find v = none
  present : ∀ f x, given f = some x → ∃ w, f.find v = some w ∧ f.Fits w x

theorem gives_nothing : Gives Value.emptyTable .nothing where
  table := rfl
  delivery _ h := by cases h
  absent f _ := by cases f <;> rfl
  present _ _ h := by cases h

/-- A file whose keys are names, each of them given once. -/
structure Mapping (file : Value) : Prop where
  plain : ∀ e ∈ file.fields, Plain e.1
  distinct : (file.fields.map (·.1)).Nodup
  delivery : ∀ d, file.fields.lookup "delivery" = some d → (d.fields.map (·.1)).Nodup

/-! ## One file over the others -/

section
variable {t file : Value} {upper lower : Given}

theorem find_lay (hm : Mapping file) (hd : ∀ d, file.fields.lookup "delivery" = some d → d.isTable = true) (t : Value)
    {f : Field} (hf : ∀ w, f.find file = some w → w.isTable = false) :
    f.find (lay t file) = (f.find file).or (f.find t) := by
  rw [lay_plain hm.plain]
  unfold Field.find at hf ⊢
  split
  case isFalse top =>
    rw [if_neg top] at hf
    rw [Value.lookup_layFields hm.distinct]
    cases hw : file.fields.lookup f.key with
    | none => rfl
    | some w => rw [Option.map_some, Value.laid_of_single (hf w hw)]
  case isTrue nested =>
    rw [if_pos nested] at hf
    rw [Value.lookup_layFields hm.distinct]
    cases hdel : file.fields.lookup "delivery" with
    | none => rfl
    | some d =>
      rw [hdel] at hf
      cases d with
      | scalar | list => cases hd _ hdel
      | table o inner =>
        -- The table of the file goes into the one that is there, and a missing one counts as empty.
        have before : ((t.fields.lookup "delivery").getD Value.emptyTable).fields.lookup f.key =
            (t.fields.lookup "delivery").bind fun d => d.fields.lookup f.key := by
          cases t.fields.lookup "delivery" <;> rfl
        have distinct : (inner.map (·.1)).Nodup := hm.delivery _ hdel
        simp only [Option.map_some, Option.some_or, Option.bind_some, Value.laid]
        rw [Value.lookup_layFields distinct, before]
        cases hw : inner.lookup f.key with
        | none => simp only [Value.fields, hw, Option.map_none]
        | some w => simp only [Value.fields, hw, Option.map_some, Value.laid_of_single (hf w hw)]

/-- A file that is laid over a table gives each field what it has for it, and changes no other one. -/
theorem gives_lay (ht : Gives t lower) (hf : Gives file upper) (hm : Mapping file) :
    Gives (lay t file) (upper.above lower) := by
  have found : ∀ f : Field, f.find (lay t file) = (f.find file).or (f.find t) := fun f =>
    find_lay hm hf.delivery t fun w hw => by
      cases hg : upper f with
      | none => cases (hf.absent f hg).symm.trans hw
      | some x =>
        obtain ⟨w', hw', fits⟩ := hf.present f x hg
        obtain rfl := Option.some.inj (hw'.symm.trans hw)
        exact fits.single
  refine ⟨?_, fun d hd => ?_, fun f hg => ?_, fun f x hg => ?_⟩
  · rw [lay_plain hm.plain]
    exact Value.isTable_layFields ht.table _
  · rw [lay_plain hm.plain, Value.lookup_layFields hm.distinct] at hd
    cases hdel : file.fields.lookup "delivery" with
    | none =>
      rw [hdel] at hd
      exact ht.delivery d hd
    | some incoming =>
      rw [hdel] at hd
      cases incoming with
      | scalar | list => cases hf.delivery _ hdel
      | table o inner =>
        obtain rfl := Option.some.inj hd
        refine Value.isTable_layFields ?_ _
        cases hold : t.fields.lookup "delivery" with
        | none => rfl
        | some old => exact ht.delivery old hold
  · obtain ⟨hu, hl⟩ := Option.or_eq_none_iff.mp hg
    rw [found, hf.absent f hu, ht.absent f hl]
    rfl
  · rw [found]
    rcases Option.or_eq_some_iff.mp hg with hu | ⟨hu, hl⟩
    · obtain ⟨w, hw, fits⟩ := hf.present f x hu
      exact ⟨w, by rw [hw]; rfl, fits⟩
    · obtain ⟨w, hw, fits⟩ := ht.present f x hl
      exact ⟨w, by rw [hf.absent f hu, hw]; rfl, fits⟩

end

/-! ## Reading the settings -/

/-- The settings with what is given, and the default where nothing is. -/
def ofGiven (given : Given) : Settings :=
  let value := fun f : Field => (given f).getD (({} : Settings).get f)
  { rootPath := value .rootPath
    includeExtensions := value .includeExtensions
    excludeFolders := value .excludeFolders
    excludePatterns := value .excludePatterns
    keywords := value .keywords
    concurrencyLimit := value .concurrencyLimit
    encodingMode := value .encodingMode
    logLevel := value .logLevel
    delivery :=
      { slackWebhookUrl := value .slackWebhookUrl
        notionApiKey := value .notionApiKey
        notionDatabaseId := value .notionDatabaseId
        concurrency := value .concurrency
        maxAttempts := value .maxAttempts
        baseDelayMs := value .baseDelayMs
        timeoutSecs := value .timeoutSecs } }

theorem get_ofGiven (given : Given) (f : Field) : (ofGiven given).get f = (given f).getD (({} : Settings).get f) := by
  cases f <;> rfl

section
variable {given : Given} {entries : List (String × Value)} {front : String}

theorem lookup_shown {field : String} :
    List.lookup field (entries.map fun e => (e.1, front ++ e.1, e.2)) =
      (entries.lookup field).map fun v => (front ++ field, v) := by
  induction entries with
  | nil => rfl
  | cons e entries ih =>
    rw [List.map_cons, Json.lookup_cons, Json.lookup_cons, ih]
    split
    · rename_i h
      rw [h]
      rfl
    · rfl

/-- The entries of a table give a field this value, if any. -/
structure Holds (entries : List (String × Value)) (given : Given) (f : Field) : Prop where
  absent : given f = none → entries.lookup f.key = none
  present : ∀ x, given f = some x → ∃ w, entries.lookup f.key = some w ∧ f.Fits w x

theorem getD_of_holds {f : Field} (h : Holds entries given f) :
    Record.getD (entries.map fun e => (e.1, front ++ e.1, e.2)) f.key f.reader (({} : Settings).get f) =
      .ok ((ofGiven given).get f) := by
  rw [get_ofGiven, Record.getD, lookup_shown]
  cases hg : given f with
  | none => rw [h.absent hg]; rfl
  | some x =>
    obtain ⟨w, hw, fits⟩ := h.present x hg
    rw [hw]
    exact fits.reads _

/-- The number in a field that holds a number of some bits. -/
theorem getD_count {α : Type} {r : Record} {key : String} {ofNat : Nat → α} (default : Nat) {x : α}
    (h : r.getD key (fun key v => (Reader.count key v).map ofNat) (ofNat default) = .ok x) :
    ∃ n, r.getD key Reader.count default = .ok n ∧ ofNat n = x := by
  cases hr : r.lookup key with
  | none =>
    simp only [Record.getD, hr] at h ⊢
    exact ⟨default, rfl, Except.ok.inj h⟩
  | some e =>
    simp only [Record.getD, hr] at h ⊢
    cases hc : Reader.count e.1 e.2 with
    | error e => rw [hc] at h; cases h
    | ok n => rw [hc] at h; exact ⟨n, rfl, Except.ok.inj h⟩

open Reader in
theorem readDelivery_of_record {r : Record} {key : String} {v : Value}
    (hr : record "DeliveryConfig" deliveryFields key v = .ok r)
    (value : ∀ f : Field, f.inDelivery = true → r.getD f.key f.reader (({} : Settings).get f) = .ok ((ofGiven given).get f)) :
    readDelivery key v = .ok (ofGiven given).delivery := by
  have slackWebhookUrl : r.getD "slack_webhook_url" (Reader.optional string) none = .ok _ := value .slackWebhookUrl rfl
  have notionApiKey : r.getD "notion_api_key" (Reader.optional string) none = .ok _ := value .notionApiKey rfl
  have notionDatabaseId : r.getD "notion_database_id" (Reader.optional string) none = .ok _ := value .notionDatabaseId rfl
  have concurrency : r.getD "concurrency" workers .forDelivery = .ok _ := value .concurrency rfl
  obtain ⟨attempts, (maxAttempts : r.getD "max_attempts" count (UInt32.toNat 3) = _), attempts_eq⟩ :=
    getD_count _ (value .maxAttempts rfl)
  obtain ⟨millis, (baseDelayMs : r.getD "base_delay_ms" count (UInt64.toNat 500) = _), millis_eq⟩ :=
    getD_count _ (value .baseDelayMs rfl)
  obtain ⟨secs, (timeoutSecs : r.getD "timeout_secs" count (UInt64.toNat 30) = _), secs_eq⟩ :=
    getD_count _ (value .timeoutSecs rfl)
  simp only [readDelivery, hr, bind, Except.bind, pure, Except.pure, slackWebhookUrl, notionApiKey, notionDatabaseId,
    concurrency, maxAttempts, baseDelayMs, timeoutSecs, attempts_eq, millis_eq, secs_eq]
  rfl

variable {v : Value}

theorem holds_of_gives (h : Gives v given) {f : Field} (hf : f.inDelivery = false) : Holds v.fields given f := by
  have found : f.find v = v.fields.lookup f.key := by rw [Field.find, hf]; rfl
  exact ⟨fun hg => found ▸ h.absent f hg, fun x hg => found ▸ h.present f x hg⟩

theorem holds_delivery (h : Gives v given) {d : Value} (hd : v.fields.lookup "delivery" = some d) {f : Field}
    (hf : f.inDelivery = true) : Holds d.fields given f := by
  have found : f.find v = d.fields.lookup f.key := by rw [Field.find, hf, hd]; rfl
  exact ⟨fun hg => found ▸ h.absent f hg, fun x hg => found ▸ h.present f x hg⟩

/-- Without settings of delivery all of them are the defaults. -/
theorem delivery_of_absent (h : Gives v given) (hd : v.fields.lookup "delivery" = none) :
    (ofGiven given).delivery = {} := by
  have nothing : ∀ f : Field, f.inDelivery = true → given f = none := fun f hf => by
    cases hg : given f with
    | none => rfl
    | some x =>
      obtain ⟨w, hw, -⟩ := h.present f x hg
      rw [Field.find, hf, hd] at hw
      cases hw
  simp only [ofGiven, nothing .slackWebhookUrl rfl, nothing .notionApiKey rfl, nothing .notionDatabaseId rfl,
    nothing .concurrency rfl, nothing .maxAttempts rfl, nothing .baseDelayMs rfl, nothing .timeoutSecs rfl]
  rfl

open Reader in
/-- The settings read from a table have in each field what the table gives it, or else its default. -/
theorem read_of_gives (h : Gives v given) : read v = .ok (ofGiven given) := by
  obtain ⟨o, entries, rfl⟩ : ∃ o entries, v = .table o entries := by
    cases v with
    | scalar | list => cases h.table
    | table o entries => exact ⟨o, entries, rfl⟩
  let r : Record := entries.map fun e => (e.1, "" ++ e.1, e.2)
  have hr : record "ScanConfig" settingsFields "" (.table o entries) = .ok r := rfl
  have value : ∀ f : Field, f.inDelivery = false → r.getD f.key f.reader (({} : Settings).get f) = .ok _ := fun f hf =>
    getD_of_holds (holds_of_gives h hf)
  have delivery : r.getD "delivery" readDelivery {} = .ok (ofGiven given).delivery := by
    rw [Record.getD, lookup_shown]
    cases hd : entries.lookup "delivery" with
    | none => rw [delivery_of_absent h hd]; rfl
    | some d =>
      cases d with
      | scalar | list => cases h.delivery _ hd
      | table o inner => exact readDelivery_of_record rfl fun f hf => getD_of_holds (holds_delivery h hd hf)
  have rootPath : r.getD "root_path" (Reader.optional string) none = .ok _ := value .rootPath rfl
  have includeExtensions : r.getD "include_extensions" strings defaultExtensions = .ok _ := value .includeExtensions rfl
  have excludeFolders : r.getD "exclude_folders" strings defaultFolders = .ok _ := value .excludeFolders rfl
  have excludePatterns : r.getD "exclude_patterns" strings defaultPatterns = .ok _ := value .excludePatterns rfl
  have keywords : r.getD "keywords" strings defaultKeywords = .ok _ := value .keywords rfl
  have concurrencyLimit : r.getD "concurrency_limit" workers .forScan = .ok _ := value .concurrencyLimit rfl
  have encodingMode : r.getD "encoding_mode" mode .lossy = .ok _ := value .encodingMode rfl
  have logLevel : r.getD "log_level" string "warn" = .ok _ := value .logLevel rfl
  simp only [read, hr, bind, Except.bind, pure, Except.pure, rootPath, includeExtensions, excludeFolders,
    excludePatterns, keywords, concurrencyLimit, encodingMode, logLevel, delivery]
  rfl

end

/-! ## The command line -/

/-- A command line gives every field but the folders and patterns to skip its value, if it has one for it. -/
theorem get_override (s : Settings) (o : Overrides) {f : Field} (folders : f ≠ .excludeFolders)
    (patterns : f ≠ .excludePatterns) : (s.override o).get f = (o.given f).getD (s.get f) := by
  have optional : ∀ a b : Option String, a.or b = (a.map some).getD b := fun a b => by cases a <;> rfl
  cases f with
  | excludeFolders => exact absurd rfl folders
  | excludePatterns => exact absurd rfl patterns
  | rootPath | slackWebhookUrl | notionApiKey | notionDatabaseId => exact optional _ _
  | _ => rfl

end MarkerScan.Settings
