import MarkerScan.Error
import MarkerScan.Json.Decode
import MarkerScan.Marker.Form
import MarkerScan.Text.Character
/-
  MarkerScan.Settings.Basic — the settings of a scan and of delivery, and their defaults.

  Every setting has a default, so no file has to name any. Numbers keep their ranges: a
  count of workers is at least one, attempts have 32 bits, times and counts have 64. One
  setting says what to do with bytes that are not UTF-8.
-/

namespace MarkerScan

/-! ## Bytes that are not UTF-8 -/

inductive EncodingMode where
  /-- A substitute stands for what is not UTF-8. -/
  | lossy
  /-- A file that is not UTF-8 is not read. -/
  | failFast
  deriving DecidableEq, Repr

namespace EncodingMode

def name : EncodingMode → String
  | .lossy => "lossy"
  | .failFast => "failfast"

/-- The mode a word names, in any ASCII case. -/
def ofName (word : List Char) : Except ScanError EncodingMode :=
  let w := String.ofList (Text.asciiLower word)
  if w = "lossy" then .ok .lossy
  else if w = "failfast" ∨ w = "fail-fast" then .ok .failFast
  else .error (.settings ("unknown encoding mode '" ++ w ++ "' (expected lossy or failfast)"))

/-- The text of a file at `path`. -/
def decode (mode : EncodingMode) (path : String) (bytes : ByteArray) : Except ScanError (List Char) :=
  match mode with
  | .lossy => .ok (Text.Utf8.decodeLossy bytes)
  | .failFast => (Text.Utf8.decodeStrict bytes).mapError (.encoding path)

end EncodingMode

/-! ## Settings -/

/-- A count of things done at once: at least one, in 64 bits. -/
structure Workers where
  count : Nat
  positive : 0 < count := by decide
  inRange : count < UInt64.size := by decide
  deriving DecidableEq, Repr

def Workers.ofNat? (n : Nat) : Option Workers :=
  if h : 0 < n ∧ n < UInt64.size then some ⟨n, h.1, h.2⟩ else none

/-- How many items are on their way at once when nothing else is said. -/
def Workers.forDelivery : Workers := { count := 3 }

/-- How many files are read at once when nothing else is said. -/
def Workers.forScan : Workers := { count := 10 }

structure DeliverySettings where
  slackWebhookUrl : Option String := none
  notionApiKey : Option String := none
  notionDatabaseId : Option String := none
  /-- Items on their way at once. -/
  concurrency : Workers := .forDelivery
  /-- Tries for an item, the first one included. -/
  maxAttempts : UInt32 := 3
  baseDelayMs : UInt64 := 500
  /-- How long one request may take. -/
  timeoutSecs : UInt64 := 30
  deriving DecidableEq, Repr

namespace Settings

def defaultFolders : List String :=
  ["node_modules", ".git", "dist", "build", "out", ".vscode", "coverage", ".nyc_output", "logs", "tmp", "temp"]

def defaultExtensions : List String :=
  ["js", "ts", "jsx", "tsx", "py", "java", "cpp", "c", "cs", "php", "rb", "go", "rs", "swift", "kt", "scala",
   "vue", "svelte"]

/-- For each default folder the pattern of that folder at any depth. -/
def defaultPatterns : List String := defaultFolders.map fun name => "**/" ++ name ++ "/**"

def defaultKeywords : List String := ["TODO", "FIXME", "HACK", "NOTE", "BUG"]

end Settings

structure Settings where
  /-- Where to scan; without it a scan fails. -/
  rootPath : Option String := none
  includeExtensions : List String := Settings.defaultExtensions
  excludeFolders : List String := Settings.defaultFolders
  excludePatterns : List String := Settings.defaultPatterns
  /-- An entry may hold several words with commas between them. -/
  keywords : List String := Settings.defaultKeywords
  /-- Files read at once. -/
  concurrencyLimit : Workers := .forScan
  encodingMode : EncodingMode := .lossy
  logLevel : String := "warn"
  delivery : DeliverySettings := {}
  deriving DecidableEq, Repr

namespace Settings

def forRoot (root : String) : Settings := { rootPath := some root }

/-- The words of the keyword entries. -/
def activeKeywords (s : Settings) : List (List Char) := Marker.activeWords (s.keywords.map String.toList)

/-! ## Values from the command line -/

/-- What a command line sets. What it does not name stays as it is. -/
structure Overrides where
  rootPath : Option String := none
  includeExtensions : Option (List String) := none
  excludeFolders : List String := []
  excludePatterns : List String := []
  keywords : Option (List String) := none
  concurrencyLimit : Option Workers := none
  encodingMode : Option EncodingMode := none
  logLevel : Option String := none
  slackWebhookUrl : Option String := none
  notionApiKey : Option String := none
  notionDatabaseId : Option String := none
  deriving DecidableEq, Repr

/-- Folders and patterns to skip are added to those there are; everything else given replaces what there is. -/
def override (s : Settings) (o : Overrides) : Settings :=
  { s with
    rootPath := o.rootPath.or s.rootPath
    includeExtensions := o.includeExtensions.getD s.includeExtensions
    excludeFolders := s.excludeFolders ++ o.excludeFolders
    excludePatterns := s.excludePatterns ++ o.excludePatterns
    keywords := o.keywords.getD s.keywords
    concurrencyLimit := o.concurrencyLimit.getD s.concurrencyLimit
    encodingMode := o.encodingMode.getD s.encodingMode
    logLevel := o.logLevel.getD s.logLevel
    delivery := { s.delivery with
      slackWebhookUrl := o.slackWebhookUrl.or s.delivery.slackWebhookUrl
      notionApiKey := o.notionApiKey.or s.delivery.notionApiKey
      notionDatabaseId := o.notionDatabaseId.or s.delivery.notionDatabaseId } }

end Settings

end MarkerScan
