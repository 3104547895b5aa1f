import MarkerScan.Json.Reader
import MarkerScan.Settings.Decode
import MarkerScan.Settings.Layers
import MarkerScan.Tree.FileSystem
import MarkerScan.Yaml.Reader
/-
  MarkerScan.Settings.Files — the files that settings come from.

  There are up to three: one in the directory for settings, `.todoscout.yaml` in the
  working directory, and one given by its path. Those that exist are laid over one
  another in this order; only the last one must exist. The extension of a file tells how
  its text is read. A path that leads to no file may leave the extension out.

  Which extensions there are, and how a text is read for each, is a parameter
  (`FileFormats`). YAML and JSON are read here: a file with several documents, or with a
  number that cannot be read, is refused, and a file whose content is no table counts as
  empty. How TOML, JSON5, INI and RON are read, which a build may add, is left out.
-/

namespace MarkerScan.Settings

/-- Reads the text of a file, whose name is for messages. -/
abbrev TextReader : Type := String → List Char → Except ScanError Value

/-- The formats that files may have. -/
class FileFormats where
  /-- The extensions, in the order in which they are tried, and how a text is read for each. -/
  readers : List (String × TextReader)

/-- The content of a YAML text. -/
def ofYamlText : TextReader := fun file text =>
  match Yaml.documents? text with
  | none => .error (.settingsSyntax file)
  | some [] => .ok Value.emptyTable
  | some [n] => match Value.ofYaml (some file) n with
    | .ok v => .ok v
    | .error number =>
      .error (.settings ("Parsing " ++ String.ofList number ++ " as floating point number failed in " ++ file))
  | some ns => .error (.settings ("Got " ++ toString ns.length ++ " YAML documents, expected 1 in " ++ file))

def ofJsonText : TextReader := fun file text =>
  match Json.parse? text with
  | some j => .ok (.ofJson (some file) j)
  | none => .error (.settingsSyntax file)

/-- The formats to run with. -/
instance : FileFormats where
  readers := [("json", ofJsonText), ("yaml", ofYamlText), ("yml", ofYamlText)]

def isFile (fs : FileSystem) (path : List Char) : Bool :=
  match fs.node path with
  | .ok (.file _) => true
  | _ => false

/-- An absolute path. -/
def absolute (fs : FileSystem) (path : List Char) : List Char := Path.joined (FileSystem.placeText fs.current) path

/-- The names of a path one by one, with `..` for a step up. -/
def names (path : List Char) : List Name :=
  (Path.parts path).filterMap fun
    | .name s => some s
    | .up => some ['.', '.']
    | _ => none

/-- How one absolute path is written from another one. -/
def seenFrom : List Name → List Name → List Name
  | a :: as, b :: bs => if a = b then seenFrom as bs else (b :: bs).map (fun _ => ['.', '.']) ++ a :: as
  | as, bs => bs.map (fun _ => ['.', '.']) ++ as

/-- The name that messages use for a file: its path from the working directory. -/
def shownPath (fs : FileSystem) (path : List Char) : String :=
  String.ofList (['/'].intercalate (seenFrom (names (absolute fs path)) fs.current))

/-- The file that a path stands for, and how its text is read. -/
def findFile [FileFormats] (fs : FileSystem) (path : List Char) : Except String (List Char × TextReader) :=
  if isFile fs path then
    match FileFormats.readers.lookup (String.ofList ((Path.extension? path).getD [])) with
    | some reader => .ok (path, reader)
    | none => .error ("configuration file \"" ++ String.ofList (absolute fs path)
        ++ "\" is not of a registered file format")
  else
    let bare := (path.reverse.dropWhile (· == '/')).reverse
    match FileFormats.readers.find? fun f => isFile fs (bare ++ '.' :: f.1.toList) with
    | some (e, reader) => .ok (bare ++ '.' :: e.toList, reader)
    | none => .error ("configuration file \"" ++ String.ofList path ++ "\" not found")

/-- The content of the file at a path. -/
def readFile [FileFormats] (fs : FileSystem) (path : List Char) : Except ScanError Value :=
  match findFile fs path with
  | .error reason => .error (.settings reason)
  | .ok (path, reader) =>
    match fs.read path with
    | .error fault => .error (.settings fault.message)
    | .ok bytes => match Text.Utf8.decodeStrict bytes with
      | .error _ => .error (.settings "stream did not contain valid UTF-8")
      | .ok text => reader (shownPath fs path) text

/-- Lays the files at these paths over one another, in order; those that do not exist are passed over. -/
def layFiles [FileFormats] (fs : FileSystem) : List (List Char) → Value → Except ScanError Value
  | [], v => .ok v
  | path :: rest, v =>
    if fs.present path then
      match readFile fs path with
      | .ok file => layFiles fs rest (lay v file)
      | .error e => .error e
    else layFiles fs rest v

def localFile : List Char := ".todoscout.yaml".toList

/-- The settings of a file system, with the file at `explicit` over the others. -/
def load [FileFormats] (fs : FileSystem) (directory : List Char) (explicit : Option String) : Except ScanError Settings :=
  let given := explicit.toList.map String.toList
  match given.find? (!fs.present ·) with
  | some path => .error (.settings ("config file not found: " ++ String.ofList path))
  | none =>
    match layFiles fs ([Path.joined directory "todoscout/config.yaml".toList, localFile] ++ given) Value.emptyTable with
    | .error e => .error e
    | .ok v => match read v with
      | .ok s => .ok s
      | .error fault => .error (.settings fault.message)

end MarkerScan.Settings
