import MarkerScan.CommandLine.Failure
import MarkerScan.CommandLine.Options
import MarkerScan.Delivery.Batch
import MarkerScan.Notion.Database
import MarkerScan.Report.Rendering
import MarkerScan.Scan.Scanner
import MarkerScan.Settings.Files
import MarkerScan.Slack.Webhook
/-
  MarkerScan.CommandLine.Run — what a command line does.

  Settings come from the files and then from the options; without any root the working
  directory is scanned. A command ends with a code, what it wrote to both outputs, and
  the files and the server as it leaves them. The code is 0 if all went well, 2 if the
  command line makes no sense and 1 for every other failure.
-/

namespace MarkerScan.CommandLine

/-- What a command works on. -/
structure Environment (σ : Type) where
  files : FileSystem
  /-- The directory for settings. -/
  settingsDirectory : List Char
  time : String
  color : Bool
  server : Http.Server σ
  state : σ

structure Outcome (σ : Type) where
  code : Nat := 0
  out : String := ""
  err : String := ""
  files : FileSystem
  state : σ

variable [Marker.SizeLimit] [Glob.SizeLimit] [Settings.FileFormats] [Http.HostNames] {σ : Type}

namespace Outcome

/-- With the failure as the last thing that is told. -/
def failed (o : Outcome σ) (f : Failure) : Outcome σ := { o with code := 1, err := o.err ++ f.text }

def say (o : Outcome σ) (text : String) : Outcome σ := { o with out := o.out ++ text }

def warn (o : Outcome σ) (text : String) : Outcome σ := { o with err := o.err ++ text }

end Outcome

namespace Environment

/-- The outcome before anything is done. -/
def start (env : Environment σ) : Outcome σ := { files := env.files, state := env.state }

/-- A line in a colour. -/
def line (env : Environment σ) (paint : Report.Paint) (text : String) : String :=
  Report.painted env.color paint text ++ "\n"

end Environment

/-! ## Settings -/

/-- The words of a value that is a list: what stands between its commas, trimmed, without what is blank. -/
def words (list : String) : List String :=
  ((Text.split ',' list.toList).map fun piece => String.ofList (Text.trim piece)).filter (!·.isEmpty)

def overrides (o : ScanOptions) (c : Command) : Settings.Overrides :=
  { rootPath := o.root
    includeExtensions := o.extensions.map words
    excludeFolders := o.excludeFolders
    excludePatterns := o.excludePatterns
    keywords := o.keywords.map words
    concurrencyLimit := o.jobs
    encodingMode := o.encoding
    slackWebhookUrl := match c with
      | .sendSlack o => o.webhook
      | _ => none
    notionApiKey := match c with
      | .sendNotion o => o.key
      | _ => none
    notionDatabaseId := match c with
      | .sendNotion o => o.databaseId
      | _ => none }

/-- The settings for a command. -/
def settings (env : Environment σ) (o : ScanOptions) (c : Command) : Except ScanError Settings := do
  let s := (← Settings.load env.files env.settingsDirectory o.settingsFile).override (overrides o c)
  return { s with rootPath := s.rootPath.or (some ".") }

/-! ## Scanning -/

/-- What a scan with these settings finds. -/
def scan (env : Environment σ) (s : Settings) : Except ScanError ScanOutput := do
  let scanner ← Scanner.build s
  (scanner.scan env.files {}).1

def statsText (o : ScanOutput) : String :=
  "Found " ++ toString o.total ++ " TODOs in " ++ toString o.withItems ++ " of " ++ toString o.scanned ++ " files\n"
    ++ if o.failed = 0 then "" else toString o.failed ++ " file(s) could not be read\n"

def runScan (env : Environment σ) (s : Settings) (o : ListOptions) : Outcome σ :=
  match scan env s with
  | .error e => env.start.failed (.scan e)
  | .ok found => env.start.say (if o.stats then statsText found else Report.terminal env.color found.items)

/-- Scans, tells of files that could not be read, and goes on with the items. -/
def withItems (env : Environment σ) (s : Settings) (go : List Item → Outcome σ → Outcome σ) : Outcome σ :=
  match scan env s with
  | .error e => env.start.failed (.scan e)
  | .ok found =>
    go found.items (if found.failed = 0 then env.start
      else env.start.warn (env.line .yellow ("Skipped " ++ toString found.failed ++ " unreadable file(s)")))

/-! ## Exporting -/

def runExport (env : Environment σ) (s : Settings) (o : ExportOptions) : Outcome σ :=
  withItems env s fun items done =>
    let path := o.output.getD o.format.defaultFileName
    match Report.exportTo env.files env.time items o.format path with
    | .error e => done.failed (.notExported path e)
    | .ok files => { done with files := files }.say
        ("Exported " ++ toString items.length ++ " TODOs to " ++ Report.painted env.color .blue path ++ "\n")

/-! ## Delivering -/

def failureLine (env : Environment σ) (f : DeliveryFailure) : String :=
  Report.painted env.color .red "failed" ++ " " ++ f.filePath ++ ":" ++ toString f.line ++ " after "
    ++ toString f.attempts ++ " attempt(s): " ++ f.error.message ++ "\n"

/-- Tells of a batch; it fails when an item was given up. -/
def tell (env : Environment σ) (service : String) (r : DeliveryReport) (done : Outcome σ) : Outcome σ :=
  let done := (done.say ("Sent " ++ toString r.delivered ++ " of " ++ toString r.total ++ " TODOs to " ++ service
    ++ "\n")).warn (String.join (r.failures.map (failureLine env)))
  if r.isSuccess then done else done.failed (.undelivered r.failures.length)

def nothingToSend (env : Environment σ) (done : Outcome σ) : Outcome σ :=
  done.say (env.line .yellow "No TODOs to send.")

/-- Posts a digest of the items. -/
def sendDigest (env : Environment σ) (w : Slack.Webhook) (policy : RetryPolicy) (items : List Item)
    (done : Outcome σ) : Outcome σ :=
  let (result, state) := w.sendDigest env.server policy env.time items done.state
  let done := { done with state := state }
  match result with
  | .error e => done.failed (.delivery e)
  | .ok messages => done.say ("Sent " ++ toString items.length ++ " TODOs to Slack in " ++ toString messages
      ++ " message(s)\n")

def testSlack (env : Environment σ) (w : Slack.Webhook) : Outcome σ :=
  let (accepted, state) := w.test env.server env.state
  let done := { env.start with state := state }
  if accepted then done.say (env.line .green "Slack webhook accepted the test message") else done.failed .webhookRefused

def runSlack (env : Environment σ) (s : Settings) (o : SlackOptions) : Outcome σ :=
  match s.delivery.slackWebhookUrl with
  | none => env.start.failed .noWebhook
  | some url => match Slack.Webhook.ofUrl url with
    | .error e => env.start.failed (.delivery e)
    | .ok w =>
      if o.test then testSlack env w
      else withItems env s fun items done =>
        let policy := RetryPolicy.ofSettings s.delivery
        if items.isEmpty then nothingToSend env done
        else if o.perItem then
          let batch := deliverAll policy (w.deliver env.server) items done.state
          tell env Slack.serviceName batch.report { done with state := batch.state }
        else sendDigest env w policy items done

def testNotion (env : Environment σ) (d : Notion.Database) : Outcome σ :=
  let (reached, session) := d.test env.server ⟨none, env.state⟩
  let done := { env.start with state := session.server }
  if reached then done.say (env.line .green "Notion database is reachable")
  else done.failed (.databaseNotRetrieved d.id)

def runNotion (env : Environment σ) (s : Settings) (o : NotionOptions) : Outcome σ :=
  match s.delivery.notionApiKey, s.delivery.notionDatabaseId with
  | some key, some id => match Notion.Database.ofKey key id with
    | .error e => env.start.failed (.delivery e)
    | .ok d =>
      if o.test then testNotion env d
      else withItems env s fun items done =>
        if items.isEmpty then nothingToSend env done
        else
          let batch := deliverAll (RetryPolicy.ofSettings s.delivery) (d.deliver env.server) items ⟨none, done.state⟩
          tell env Notion.serviceName batch.report { done with state := batch.state.server }
  | _, _ => env.start.failed .noDatabase

/-! ## Whole command lines -/

def runCommand (env : Environment σ) (s : Settings) : Command → Outcome σ
  | .scan o => runScan env s o
  | .exportItems o => runExport env s o
  | .sendSlack o => runSlack env s o
  | .sendNotion o => runNotion env s o

def helpText : String := description ++ "\n\n" ++ usageText ++ "\n"

/-- What is told when reading the command line ends early. -/
def stopped (env : Environment σ) : Stop → Outcome σ
  | .usage e => { env.start.warn ("error: " ++ e.message ++ "\n\n" ++ usageText ++ "\n") with code := 2 }
  | .help => env.start.say helpText
  | .version => env.start.say (versionText ++ "\n")
  | .nothingGiven => { env.start.warn helpText with code := 2 }

/-- Runs a command line. -/
def run (env : Environment σ) (args : List (List Char)) : Outcome σ :=
  match read args with
  | .error stop => stopped env stop
  | .ok (o, command) =>
    match settings env o command with
    | .error e => env.start.failed (.scan e)
    | .ok s => runCommand env s command

end MarkerScan.CommandLine
