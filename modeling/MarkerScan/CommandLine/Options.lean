import MarkerScan.CommandLine.Grammar
import MarkerScan.Number.Notation
import MarkerScan.Report.Rendering
import MarkerScan.Settings.Basic
/-
  MarkerScan.CommandLine.Options — the commands, and the options of each.

  The options of a scan may stand before the command and behind it. An option given in
  both places counts behind the command; folders and patterns given there take the place
  of all given before it.
-/

namespace MarkerScan.CommandLine

/-- The options that every command has. -/
structure ScanOptions where
  root : Option String := none
  settingsFile : Option String := none
  extensions : Option String := none
  excludeFolders : List String := []
  excludePatterns : List String := []
  keywords : Option String := none
  jobs : Option Workers := none
  encoding : Option EncodingMode := none
  verbose : Bool := false
  deriving DecidableEq, Repr

structure ListOptions where
  /-- Counts in place of the list. -/
  stats : Bool := false
  deriving DecidableEq, Repr

structure ExportOptions where
  format : Report.Format := .txt
  output : Option String := none
  deriving DecidableEq, Repr

structure SlackOptions where
  webhook : Option String := none
  /-- A message for each item in place of a digest. -/
  perItem : Bool := false
  /-- Only a test message. -/
  test : Bool := false
  deriving DecidableEq, Repr

structure NotionOptions where
  key : Option String := none
  databaseId : Option String := none
  /-- Only a test of the connection. -/
  test : Bool := false
  deriving DecidableEq, Repr

inductive Command where
  | scan (o : ListOptions)
  | exportItems (o : ExportOptions)
  | sendSlack (o : SlackOptions)
  | sendNotion (o : NotionOptions)
  deriving DecidableEq, Repr

/-! ## Values -/

def anyText (value : List Char) : Except ValueFault String := .ok (String.ofList value)

/-- A path, which is not empty. -/
def filePath (value : List Char) : Except ValueFault String :=
  if value.isEmpty then .error .missing else .ok (String.ofList value)

def workers (value : List Char) : Except ValueFault Workers :=
  match Number.readPositive (UInt64.size - 1) value with
  | .error fault => .error (.invalid fault.message)
  | .ok n => match Workers.ofNat? n with
    | some w => .ok w
    | none => .error (.invalid Number.IntegerFault.zero.message)

def encodingMode (value : List Char) : Except ValueFault EncodingMode :=
  (EncodingMode.ofName value).mapError fun e => .invalid e.message

def format (value : List Char) : Except ValueFault Report.Format :=
  (Report.Format.ofName value).mapError fun e => .invalid e.message

/-- An option whose value replaces a part of what has been given. -/
def valueRule {α β : Type} (long : String) (letter : Option Char) (name : String)
    (read : List Char → Except ValueFault β) (set : β → α → α) : Rule α :=
  ⟨long, letter, .value name false fun value given => (read value).map (set · given)⟩

/-- An option that may be given several times, and adds a text each time. -/
def listRule {α : Type} (long : String) (letter : Option Char) (name : String) (add : String → α → α) : Rule α :=
  ⟨long, letter, .value name true fun value given => (anyText value).map (add · given)⟩

def flagRule {α : Type} (long : String) (letter : Option Char) (set : α → α) : Rule α := ⟨long, letter, .flag set⟩

/-! ## Rules -/

def scanRules : List (Rule ScanOptions) :=
  [valueRule "root" (some 'd') "ROOT" filePath fun v o => { o with root := some v },
   valueRule "config" none "CONFIG" filePath fun v o => { o with settingsFile := some v },
   valueRule "ext" (some 'e') "EXTENSIONS" anyText fun v o => { o with extensions := some v },
   listRule "exclude-folder" none "EXCLUDE_FOLDERS" fun v o => { o with excludeFolders := o.excludeFolders ++ [v] },
   listRule "exclude" (some 'x') "EXCLUDE_PATTERNS" fun v o => { o with excludePatterns := o.excludePatterns ++ [v] },
   valueRule "keywords" (some 'k') "KEYWORDS" anyText fun v o => { o with keywords := some v },
   valueRule "jobs" (some 'j') "JOBS" workers fun v o => { o with jobs := some v },
   valueRule "encoding" none "ENCODING" encodingMode fun v o => { o with encoding := some v },
   flagRule "verbose" (some 'v') fun o => { o with verbose := true },
   ⟨"help", some 'h', .help⟩]

def listRules : List (Rule ListOptions) := [flagRule "stats" (some 's') fun o => { o with stats := true }]

def exportRules : List (Rule ExportOptions) :=
  [valueRule "format" (some 'f') "FORMAT" format fun v o => { o with format := v },
   valueRule "output" (some 'o') "OUTPUT" filePath fun v o => { o with output := some v }]

def slackRules : List (Rule SlackOptions) :=
  [valueRule "webhook" none "WEBHOOK" anyText fun v o => { o with webhook := some v },
   flagRule "per-item" none fun o => { o with perItem := true },
   flagRule "test" none fun o => { o with test := true }]

def notionRules : List (Rule NotionOptions) :=
  [valueRule "api-key" none "API_KEY" anyText fun v o => { o with key := some v },
   valueRule "database-id" none "DATABASE_ID" anyText fun v o => { o with databaseId := some v },
   flagRule "test" none fun o => { o with test := true }]

/-- A rule for a part of what has been given. -/
def Rule.within {α β : Type} (get : β → α) (set : α → β → β) (r : Rule α) : Rule β :=
  { long := r.long
    letter := r.letter
    action := match r.action with
      | .flag f => .flag fun given => set (f (get given)) given
      | .value name many put => .value name many fun value given => (put value (get given)).map (set · given)
      | .help => .help
      | .version => .version }

/-- Options before the command, with those behind it in their place. -/
def ScanOptions.merge (earlier later : ScanOptions) : ScanOptions where
  root := later.root.or earlier.root
  settingsFile := later.settingsFile.or earlier.settingsFile
  extensions := later.extensions.or earlier.extensions
  excludeFolders := if later.excludeFolders.isEmpty then earlier.excludeFolders else later.excludeFolders
  excludePatterns := if later.excludePatterns.isEmpty then earlier.excludePatterns else later.excludePatterns
  keywords := later.keywords.or earlier.keywords
  jobs := later.jobs.or earlier.jobs
  encoding := later.encoding.or earlier.encoding
  verbose := later.verbose || earlier.verbose

/-! ## Reading a command line -/

/-- Reads the words behind a command by the rules of its own and those of a scan. -/
def readCommand {β : Type} (rules : List (Rule β)) (own : β) (make : β → Command) (words : List (List Char)) :
    Except Stop (ScanOptions × Command) := do
  let all : List (Rule (ScanOptions × β)) :=
    rules.map (Rule.within Prod.snd fun b p => (p.1, b)) ++ scanRules.map (Rule.within Prod.fst fun a p => (a, p.2))
  let (p, _) ← readWords all [] words { given := ({}, own) }
  let p ← p.settle
  return (p.given.1, make p.given.2)

/-- The commands, and how the words behind each are read. -/
def commands : List (List Char × (List (List Char) → Except Stop (ScanOptions × Command))) :=
  [("scan".toList, readCommand listRules {} .scan),
   ("export".toList, readCommand exportRules {} .exportItems),
   ("send-slack".toList, readCommand slackRules {} .sendSlack),
   ("send-notion".toList, readCommand notionRules {} .sendNotion)]

def helpCommand : List Char := "help".toList

def commandNames : List (List Char) := commands.map Prod.fst ++ [helpCommand]

/-- The words behind `help` name a command, or nothing. -/
def readHelp : List (List Char) → Stop
  | [] => .help
  | word :: rest =>
    if word = helpCommand then readHelp rest
    else if commandNames.contains word then match rest with
      | [] => .help
      | next :: _ => .usage (.unknownCommand (String.ofList next))
    else .usage (.unknownCommand (String.ofList word))

def rootRules : List (Rule ScanOptions) := scanRules ++ [⟨"version", some 'V', .version⟩]

/-- Reads a whole command line. -/
def read (words : List (List Char)) : Except Stop (ScanOptions × Command) := do
  let (before, ending) ← readWords rootRules commandNames words { given := {} }
  match ending with
  | .words =>
    let before ← before.settle
    if before.seen.isEmpty then .error .nothingGiven else .error (.usage .noCommand)
  | .command name rest =>
    match commands.lookup name with
    | none => .error (readHelp rest)
    | some readRest => do
      let (behind, command) ← readRest rest
      let before ← before.settle
      return (before.given.merge behind, command)

/-! ## Messages -/

def programName : String := "todoscout"

def description : String := "Command-line front end for todoscout: list, export and deliver TODO markers"

def versionText : String := "todoscout-cli 0.1.0"

def UsageError.message : UsageError → String
  | .unexpectedArgument word => "unexpected argument '" ++ word ++ "' found"
  | .unknownCommand word => "unrecognized subcommand '" ++ word ++ "'"
  | .noCommand => "'" ++ programName ++ "' requires a subcommand but one wasn't provided"
  | .valueRequired option => "a value is required for '" ++ option ++ "' but none was supplied"
  | .invalidValue value option reason => "invalid value '" ++ value ++ "' for '" ++ option ++ "': " ++ reason
  | .repeated option => "the argument '" ++ option ++ "' cannot be used multiple times"
  | .unexpectedValue value option =>
    "unexpected value '" ++ value ++ "' for '" ++ option ++ "' found; no more were expected"

/-- How the program is called. -/
def usageText : String :=
  "Usage: " ++ programName ++ " [OPTIONS] <" ++ String.ofList (['|'].intercalate (commands.map Prod.fst)) ++ ">"

end MarkerScan.CommandLine
