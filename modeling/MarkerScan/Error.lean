import MarkerScan.Text.Utf8
/-
  MarkerScan.Error — what can go wrong when a tree is scanned or a list is written.

  An error is its cause; `ScanError.message` is the one place that words it. Faults of
  the file system carry their number and text.
-/

namespace MarkerScan

/-- A fault reported by the file system. -/
inductive FileFault where
  | notFound
  | permissionDenied
  | notDirectory
  | isDirectory
  | nameTooLong
  | linkLoop
  | alreadyExists
  deriving DecidableEq, Repr

def FileFault.message : FileFault → String
  | .notFound => "No such file or directory (os error 2)"
  | .permissionDenied => "Permission denied (os error 13)"
  | .alreadyExists => "File exists (os error 17)"
  | .notDirectory => "Not a directory (os error 20)"
  | .isDirectory => "Is a directory (os error 21)"
  | .nameTooLong => "File name too long (os error 36)"
  | .linkLoop => "Too many levels of symbolic links (os error 40)"

inductive ScanError where
  | rootUnavailable (reason : String)
  | fileNotFound (path : String)
  | permissionDenied (path : String)
  | invalidPattern (reason : String)
  | directoryRead (path reason : String)
  | settings (reason : String)
  /-- A settings file that is no text of its format. -/
  | settingsSyntax (file : String)
  | exportFailed (reason : String)
  | io (reason : String)
  | encoding (path : String) (fault : Text.Utf8.Fault)
  deriving DecidableEq, Repr

namespace ScanError

def message : ScanError → String
  | .rootUnavailable reason => "Scan root unavailable: " ++ reason
  | .fileNotFound path => "File not found: " ++ path
  | .permissionDenied path => "Permission denied: " ++ path
  | .invalidPattern reason => "Invalid pattern: " ++ reason
  | .directoryRead path reason => "Failed to read directory " ++ path ++ ": " ++ reason
  | .settings reason => "Configuration error: " ++ reason
  | .settingsSyntax file => "Configuration error: " ++ file ++ " is not well formed"
  | .exportFailed reason => "Export failed: " ++ reason
  | .io reason => "IO error: " ++ reason
  | .encoding path fault => "Invalid UTF-8 in file " ++ path ++ ": " ++ fault.message

/-- A file system fault at `path`: a missing file and a refused one are errors of their own. -/
def ofFile (path : String) : FileFault → ScanError
  | .notFound => .fileNotFound path
  | .permissionDenied => .permissionDenied path
  | fault => .io fault.message

end ScanError

end MarkerScan
