import MarkerScan.Settings.Basic
/-
  MarkerScan.Settings.Json — settings as JSON, read and written.

  Written, every field is there, and `null` stands for a setting that is not set.
-/

namespace MarkerScan

open Json Json.Decode

def EncodingMode.decoder : Decoder EncodingMode := choice [("lossy", .lossy), ("failfast", .failFast)]

def Workers.decoder : Decoder Workers := fun j => do
  let n ← positiveSize j
  match Workers.ofNat? n with
  | some w => return w
  | none => throw (.wrongValue j "a nonzero usize")

def DeliverySettings.decode : Decoder DeliverySettings := fun j => do
  let d : DeliverySettings := {}
  let f ← record "DeliveryConfig"
    [defaulted "slack_webhook_url" (optional string), defaulted "notion_api_key" (optional string),
     defaulted "notion_database_id" (optional string), defaulted "concurrency" Workers.decoder,
     defaulted "max_attempts" uint32, defaulted "base_delay_ms" uint64, defaulted "timeout_secs" uint64] j
  return {
    slackWebhookUrl := ← f.getD "slack_webhook_url" (optional string) none
    notionApiKey := ← f.getD "notion_api_key" (optional string) none
    notionDatabaseId := ← f.getD "notion_database_id" (optional string) none
    concurrency := ← f.getD "concurrency" Workers.decoder d.concurrency
    maxAttempts := UInt32.ofNat (← f.getD "max_attempts" uint32 d.maxAttempts.toNat)
    baseDelayMs := UInt64.ofNat (← f.getD "base_delay_ms" uint64 d.baseDelayMs.toNat)
    timeoutSecs := UInt64.ofNat (← f.getD "timeout_secs" uint64 d.timeoutSecs.toNat) }

def Settings.decode : Decoder Settings := fun j => do
  let d : Settings := {}
  let strings := list string
  let f ← record "ScanConfig"
    [defaulted "root_path" (optional path), defaulted "include_extensions" strings,
     defaulted "exclude_folders" strings, defaulted "exclude_patterns" strings, defaulted "keywords" strings,
     defaulted "concurrency_limit" Workers.decoder, defaulted "encoding_mode" EncodingMode.decoder,
     defaulted "log_level" string, defaulted "delivery" DeliverySettings.decode] j
  return {
    rootPath := ← f.getD "root_path" (optional path) none
    includeExtensions := ← f.getD "include_extensions" strings d.includeExtensions
    excludeFolders := ← f.getD "exclude_folders" strings d.excludeFolders
    excludePatterns := ← f.getD "exclude_patterns" strings d.excludePatterns
    keywords := ← f.getD "keywords" strings d.keywords
    concurrencyLimit := ← f.getD "concurrency_limit" Workers.decoder d.concurrencyLimit
    encodingMode := ← f.getD "encoding_mode" EncodingMode.decoder d.encodingMode
    logLevel := ← f.getD "log_level" string d.logLevel
    delivery := ← f.getD "delivery" DeliverySettings.decode d.delivery }

def stringsJson (l : List String) : Json := .array (l.map .string)

def DeliverySettings.toJson (s : DeliverySettings) : Json :=
  .object [("slack_webhook_url", ofOption .string s.slackWebhookUrl), ("notion_api_key", ofOption .string s.notionApiKey),
    ("notion_database_id", ofOption .string s.notionDatabaseId), ("concurrency", ofNat s.concurrency.count),
    ("max_attempts", ofNat s.maxAttempts.toNat), ("base_delay_ms", ofNat s.baseDelayMs.toNat),
    ("timeout_secs", ofNat s.timeoutSecs.toNat)]

def Settings.toJson (s : Settings) : Json :=
  .object [("root_path", ofOption .string s.rootPath), ("include_extensions", stringsJson s.includeExtensions),
    ("exclude_folders", stringsJson s.excludeFolders), ("exclude_patterns", stringsJson s.excludePatterns),
    ("keywords", stringsJson s.keywords), ("concurrency_limit", ofNat s.concurrencyLimit.count),
    ("encoding_mode", .string s.encodingMode.name), ("log_level", .string s.logLevel), ("delivery", s.delivery.toJson)]

end MarkerScan
