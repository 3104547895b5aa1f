import MarkerScan.Error
import MarkerScan.Text.Split
/-
  MarkerScan.Tree.Basic — paths, directory trees, and the places in them.

  A path is cut at `/`. Empty parts say nothing, except that a path that starts with `/`
  starts at the root; a `.` says nothing, except in front of a path.

  A node is a file, a symbolic link or a directory of named nodes. A place is the list
  of names that leads to a node from the top. `set`, `remove` and `node?` are the three
  operations on places; none of them follows a link.
-/

namespace MarkerScan.Path

/-! ## The parts of a path -/

inductive Part where
  | root
  | here
  | up
  | name (s : List Char)
  deriving DecidableEq, Repr

/-- A part that is not empty. -/
def partOf (s : List Char) : Part :=
  if s = ['.', '.'] then .up else if s = ['.'] then .here else .name s

/-- The parts of a path. -/
def parts (path : List Char) : List Part :=
  let named := ((Text.split '/' path).filter (!·.isEmpty)).map partOf
  match path with
  | '/' :: _ => .root :: named.filter (· != .here)
  | '.' :: '/' :: _ => .here :: named.filter (· != .here)
  | ['.'] => [.here]
  | _ => named.filter (· != .here)

def Part.name? : Part → Option (List Char)
  | .name s => some s
  | _ => none

/-- The names of a path below `root`, or of the whole path if it is not below it, with `/` between them. -/
def relative (root path : List Char) : List Char :=
  let whole := parts path
  let rest := ((parts root).isPrefixOf? whole).getD whole
  ['/'].intercalate (rest.filterMap Part.name?)

/-- The name at the end of a path. -/
def fileName? (path : List Char) : Option (List Char) := (parts path).getLast?.bind Part.name?

/-- What follows the last dot of a name, unless nothing stands before that dot. -/
def extensionOf? (name : List Char) : Option (List Char) :=
  let after := name.reverse.takeWhile (· != '.')
  match name.reverse.dropWhile (· != '.') with
  | _ :: before => if before.isEmpty then none else some after.reverse
  | [] => none

def extension? (path : List Char) : Option (List Char) := (fileName? path).bind extensionOf?

/-- `path` seen from `base`: an absolute path stays as it is. -/
def joined (base path : List Char) : List Char :=
  match path with
  | '/' :: _ => path
  | _ => if base.isEmpty then path
    else if base.getLast? = some '/' then base ++ path else base ++ '/' :: path

end MarkerScan.Path

namespace MarkerScan

/-! ## Trees -/

/-- A name in a directory. -/
abbrev Name := List Char

inductive Node where
  | file (bytes : ByteArray)
  | link (target : List Char)
  | dir (entries : List (Name × Node))

namespace Node

def isDir : Node → Bool
  | .dir _ => true
  | _ => false

/-- The entries of a directory; anything else has none. -/
def entries : Node → List (Name × Node)
  | .dir entries => entries
  | _ => []

/-- The entry `name` of a directory. -/
def child? (n : Node) (name : Name) : Option Node := n.entries.lookup name

/-- The node at a place. -/
def node? (n : Node) : List Name → Option Node
  | [] => some n
  | name :: place => (n.child? name).bind (·.node? place)

/-- Puts an entry in place of the one with its name, or after the others. -/
def putEntry (name : Name) (node : Node) : List (Name × Node) → List (Name × Node)
  | [] => [(name, node)]
  | (k, v) :: rest => if k = name then (name, node) :: rest else (k, v) :: putEntry name node rest

/-- Puts a node at a place. Directories that are missing on the way are made. -/
def set (n new : Node) : List Name → Node
  | [] => new
  | name :: place => .dir (putEntry name (set ((n.child? name).getD (.dir [])) new place) n.entries)

/-- Takes the node at a place away. -/
def remove (n : Node) : List Name → Node
  | [] => n
  | [name] => .dir (n.entries.filter (·.1 != name))
  | name :: place =>
    match n.child? name with
    | some child => .dir (putEntry name (remove child place) n.entries)
    | none => n

end Node

end MarkerScan
