import MarkerScan.Settings.Basic
import MarkerScan.Settings.Value
import MarkerScan.Settings.Layers
/-
  MarkerScan.Settings.Decode — settings from the values of their files.

  Scalars stand for strings and counts as they can. A record may be given as a table or
  as a list of its fields in order; in a list, what is left out has its default and what
  is too much is passed over. A fault names the key and the file of the value, where a
  value of one kind stands for another, and neither where a list or record is wanted and
  there is none.
-/

namespace MarkerScan.Settings

/-- Why settings could not be read. -/
inductive Fault where
  | wrongScalar (found expected key : String) (origin : Option String)
  | wrongType (found expected : String)
  | zeroWorkers
  | unknownMode (name : String)
  | notMode
  deriving DecidableEq, Repr

def Fault.message : Fault → String
  | .wrongScalar found expected key origin =>
    "invalid type: " ++ found ++ ", expected " ++ expected ++ " for key `" ++ key ++ "`"
      ++ (match origin with
        | some file => " in " ++ file
        | none => "")
  | .wrongType found expected => "invalid type: " ++ found ++ ", expected " ++ expected
  | .zeroWorkers => "invalid value: integer `0`, expected a nonzero usize"
  | .unknownMode name => "enum EncodingMode does not have variant constructor " ++ name
  | .notMode => "value of enum EncodingMode should be represented by either string or table with exactly one key"

/-- A way to read a value that stands under a key. -/
abbrev Reader (α : Type) := String → Value → Except Fault α

namespace Reader

def string : Reader String := fun key v =>
  match v.string? with
  | some s => .ok s
  | none => .error (.wrongScalar v.named "a string" key v.origin)

def count : Reader Nat := fun key v =>
  match v.count with
  | .ok n => .ok n
  | .error (found, expected) => .error (.wrongScalar found expected key v.origin)

def workers : Reader Workers := fun key v => do
  match Workers.ofNat? (← count key v) with
  | some w => return w
  | none => throw .zeroWorkers

def optional {α : Type} (read : Reader α) : Reader (Option α) := fun key v =>
  match v with
  | .scalar _ .null => .ok none
  | v => (read key v).map some

def strings : Reader (List String) := fun key v =>
  match v with
  | .list _ items => items.zipIdx.mapM fun (v, i) => string (key ++ "[" ++ toString i ++ "]") v
  | v => .error (.wrongType v.named "a sequence")

def modeNamed (name : String) : Except Fault EncodingMode :=
  if name = "lossy" then .ok .lossy
  else if name = "failfast" then .ok .failFast
  else .error (.unknownMode name)

def mode : Reader EncodingMode := fun _ v =>
  match v with
  | .scalar _ (.string s) => modeNamed s
  | .table _ [(name, _)] => modeNamed name
  | _ => .error .notMode

end Reader

/-- The fields of a record: the key to show and the value of each. -/
abbrev Record := List (String × String × Value)

/-- A record given as a table or as a list. -/
def record (name : String) (fields : List String) (key : String) (v : Value) : Except Fault Record :=
  let front := if key.isEmpty then "" else key ++ "."
  match v with
  | .table _ entries => .ok (entries.map fun (k, v) => (k, front ++ k, v))
  | .list _ items =>
    .ok ((fields.zip items.zipIdx).map fun (f, v, i) => (f, key ++ "[" ++ toString i ++ "]", v))
  | v => .error (.wrongType v.named ("struct " ++ name))

/-- A field of a record, or its default. -/
def Record.getD {α : Type} (r : Record) (field : String) (read : Reader α) (default : α) : Except Fault α :=
  match r.lookup field with
  | some (key, v) => read key v
  | none => .ok default

def deliveryFields : List String :=
  ["slack_webhook_url", "notion_api_key", "notion_database_id", "concurrency", "max_attempts", "base_delay_ms",
   "timeout_secs"]

open Reader in
/-- Attempts are taken modulo 2^32. -/
def readDelivery : Reader DeliverySettings := fun key v => do
  let d : DeliverySettings := {}
  let r ← record "DeliveryConfig" deliveryFields key v
  return {
    slackWebhookUrl := ← r.getD "slack_webhook_url" (optional string) none
    notionApiKey := ← r.getD "notion_api_key" (optional string) none
    notionDatabaseId := ← r.getD "notion_database_id" (optional string) none
    concurrency := ← r.getD "concurrency" workers d.concurrency
    maxAttempts := UInt32.ofNat (← r.getD "max_attempts" count d.maxAttempts.toNat)
    baseDelayMs := UInt64.ofNat (← r.getD "base_delay_ms" count d.baseDelayMs.toNat)
    timeoutSecs := UInt64.ofNat (← r.getD "timeout_secs" count d.timeoutSecs.toNat) }

def settingsFields : List String :=
  ["root_path", "include_extensions", "exclude_folders", "exclude_patterns", "keywords", "concurrency_limit",
   "encoding_mode", "log_level", "delivery"]

open Reader in
def read (v : Value) : Except Fault Settings := do
  let d : Settings := {}
  let r ← record "ScanConfig" settingsFields "" v
  return {
    rootPath := ← r.getD "root_path" (optional string) none
    includeExtensions := ← r.getD "include_extensions" strings d.includeExtensions
    excludeFolders := ← r.getD "exclude_folders" strings d.excludeFolders
    excludePatterns := ← r.getD "exclude_patterns" strings d.excludePatterns
    keywords := ← r.getD "keywords" strings d.keywords
    concurrencyLimit := ← r.getD "concurrency_limit" workers d.concurrencyLimit
    encodingMode := ← r.getD "encoding_mode" mode d.encodingMode
    logLevel := ← r.getD "log_level" string d.logLevel
    delivery := ← r.getD "delivery" readDelivery d.delivery }

end MarkerScan.Settings
