import MarkerScan.Delivery.Retry
import MarkerScan.Error
/-
  MarkerScan.CommandLine.Failure — why a command fails, and how that is told.

  The message comes first. What lies behind it follows, indented, and numbered if there
  are several causes.
-/

namespace MarkerScan.CommandLine

inductive Failure where
  | scan (e : ScanError)
  | delivery (e : DeliveryError)
  | notExported (path : String) (e : ScanError)
  | noWebhook
  | noDatabase
  | webhookRefused
  | databaseNotRetrieved (id : String)
  | undelivered (count : Nat)
  deriving DecidableEq, Repr

namespace Failure

/-- What lies behind an error. -/
def behind : ScanError → List String
  | .io reason => [reason]
  | .encoding _ fault => [fault.message]
  | _ => []

def message : Failure → String
  | .scan e => e.message
  | .delivery e => e.message
  | .notExported path _ => "failed to export to " ++ path
  | .noWebhook => "no Slack webhook configured; pass --webhook or set delivery.slack_webhook_url"
  | .noDatabase => "no Notion database configured; pass --api-key and --database-id or set "
      ++ "delivery.notion_api_key and delivery.notion_database_id"
  | .webhookRefused => "Slack webhook did not accept the test message"
  | .databaseNotRetrieved id => "Notion database " ++ id ++ " could not be retrieved"
  | .undelivered count => toString count ++ " TODO(s) could not be delivered"

def causes : Failure → List String
  | .scan e => behind e
  | .notExported _ e => e.message :: behind e
  | _ => []

/-- Indents every line but the first one. -/
def indented (width : Nat) (s : String) : String :=
  String.ofList (s.toList.flatMap fun c => if c == '\n' then c :: List.replicate width ' ' else [c])

def numbered (n : Nat) : List String → String
  | [] => ""
  | cause :: rest => "\n    " ++ toString n ++ ": " ++ indented 7 cause ++ numbered (n + 1) rest

def causesText : List String → String
  | [] => ""
  | [cause] => "\n\nCaused by:\n    " ++ indented 4 cause
  | causes => "\n\nCaused by:" ++ numbered 0 causes

def text (f : Failure) : String := "Error: " ++ f.message ++ causesText f.causes ++ "\n"

end Failure

end MarkerScan.CommandLine
