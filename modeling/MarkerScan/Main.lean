import MarkerScan.CommandLine.Run
import MarkerScan.Report.Rendering
import Std.Time.DateTime.Timestamp
/-
  MarkerScan.Main — the command line.

  The files that a command looks at are read in first: those of the settings, then the
  tree to scan, and the place of the output. What the command does is computed on them,
  and then told and written. Nothing here reaches a network, so every request counts as
  one that found no server.
-/

namespace MarkerScan.Main

open CommandLine

/-- The bytes of a file, if there is one that can be read. -/
def bytesOf? (path : String) : IO (Option ByteArray) := do
  try
    return some (← IO.FS.readBinFile path)
  catch _ => return none

/-- Puts a file where the tree has none of that path. -/
def copyFile (fs : FileSystem) (path : String) : IO FileSystem := do
  match ← bytesOf? path with
  | some bytes => return (fs.makeParents path.toList).putNew true path.toList (.file bytes)
  | none => return fs

/-- Puts a directory and everything below it, as far as it can be read. -/
partial def copyTree (fs : FileSystem) (path : String) : IO FileSystem := do
  let here := (← IO.currentDir) / path
  if ← here.isDir then
    let mut fs := fs.makeDirs path.toList
    for entry in (← try here.readDir catch _ => return fs) do
      let below := path ++ "/" ++ entry.fileName
      match (← entry.path.symlinkMetadata).type with
      | .dir => fs ← copyTree fs below
      | .file => fs ← copyFile fs below
      | .symlink => fs := fs.putNew false below.toList (.link [])
      | .other => pure ()
    return fs
  else copyFile fs path

/-- Puts what is in the way of a file to be written: its directory, and what is there already. -/
def copyTarget (fs : FileSystem) (path : String) : IO FileSystem := do
  let here := (← IO.currentDir) / path
  if ← here.isDir then return fs.makeDirs path.toList
  else match here.parent with
    | some above => do
      let fs ← copyFile fs path
      if ← above.isDir then return fs.makeParents path.toList else return fs
    | none => return fs

/-- The directory for settings: the one the environment names, or the usual one. -/
def settingsDirectory : IO String := do
  match ← IO.getEnv "XDG_CONFIG_HOME" with
  | some dir => if dir.startsWith "/" then return dir else usual
  | none => usual
where
  usual : IO String := return ((← IO.getEnv "HOME").getD "") ++ "/.config"

/-- Whether output is in colour: the environment decides, or else whether a terminal shows it. -/
def wantsColor : IO Bool := do
  if (← IO.getEnv "CLICOLOR_FORCE").any (· != "0") then return true
  if (← IO.getEnv "NO_COLOR").isSome then return false
  return (← (← IO.getStdout).isTty) && (← IO.getEnv "CLICOLOR") != some "0"

/-- The files that settings may come from. -/
def settingsPaths (directory : String) (o : ScanOptions) : List String :=
  (directory ++ "/todoscout/config.yaml") :: String.ofList Settings.localFile ::
    match o.settingsFile with
    | some path => path :: Settings.FileFormats.readers.map fun f => path ++ "." ++ f.1
    | none => []

def outputPath? : Command → Option String
  | .exportItems o => some (o.output.getD o.format.defaultFileName)
  | _ => none

/-- What a command line works on, read in as far as it needs it. -/
def prepare (words : List (List Char)) : IO (Environment Unit) := do
  let here := (Path.parts (← IO.currentDir).toString.toList).filterMap Path.Part.name?
  let directory ← settingsDirectory
  let now ← Std.Time.Timestamp.now
  let mut env : Environment Unit :=
    { files := FileSystem.empty here
      settingsDirectory := directory.toList
      time := Report.timestamp now.toSecondsSinceUnixEpoch.val.toNat
      color := ← wantsColor
      server := Http.noServer
      state := () }
  if let .ok (o, command) := read words then
    for path in settingsPaths directory o do
      env := { env with files := ← copyFile env.files path }
    if let .ok s := settings env o command then
      env := { env with files := ← copyTree env.files (s.rootPath.getD ".") }
    if let some path := outputPath? command then
      env := { env with files := ← copyTarget env.files path }
  return env

end MarkerScan.Main

open MarkerScan MarkerScan.Main in
def main (args : List String) : IO UInt32 := do
  let words := args.map String.toList
  let env ← prepare words
  let outcome := CommandLine.run env words
  (← IO.getStdout).putStr outcome.out
  (← IO.getStderr).putStr outcome.err
  if let .ok (_, command) := CommandLine.read words then
    if let some path := outputPath? command then
      if outcome.code = 0 then
        if let .ok bytes := outcome.files.read path.toList then IO.FS.writeBinFile path bytes
  return UInt32.ofNat outcome.code
