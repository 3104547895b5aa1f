import MarkerScan.Tree.Basic
/-
  MarkerScan.Tree.FileSystem — resolving paths, reading and writing.

  A path is taken part by part from the working directory, or from the top if it starts
  with `/`. A name is looked up in a directory, `..` goes one place up, and a link is
  replaced by the path it holds, at most forty times. A `/` at the end asks for a
  directory. Writing makes a file in a directory that exists, and follows links as
  reading does: a link to nothing names the file that writing makes.
-/

namespace MarkerScan

structure FileSystem where
  top : Node
  /-- The place of the working directory. -/
  current : List Name

namespace FileSystem

/-- Where a path leads: a node that exists, or a name that is free in a directory. -/
inductive Target where
  | present (place : List Name)
  | vacant (dir : List Name) (name : Name)
  deriving DecidableEq, Repr

/-- The parts of a path as steps. Empty parts are no steps, except for one at the end, which stays in a directory. -/
def steps (path : List Char) : List Path.Part :=
  let pieces := Text.split '/' path
  let named := (pieces.filter (!·.isEmpty)).map Path.partOf
  let inner := if path.getLast? = some '/' then named ++ [.here] else named
  if path.head? = some '/' then .root :: inner else inner

/-- The most bytes a name may have. -/
def nameLimit : Nat := 255

def nameSize (name : Name) : Nat := name.foldl (fun n c => n + c.utf8Size) 0

/-- Takes steps from a place. `jump` goes on behind a link, with the steps that are left. -/
def walk (top : Node) (followLast : Bool) (jump : List Name → List Path.Part → Except FileFault Target)
    (place : List Name) : List Path.Part → Except FileFault Target
  | [] => .ok (.present place)
  | .root :: rest => walk top followLast jump [] rest
  | .here :: rest =>
    if (top.node? place).any Node.isDir then walk top followLast jump place rest else .error .notDirectory
  | .up :: rest =>
    if (top.node? place).any Node.isDir then walk top followLast jump place.dropLast rest else .error .notDirectory
  | .name s :: rest =>
    if !(top.node? place).any Node.isDir then .error .notDirectory
    else if nameLimit < nameSize s then .error .nameTooLong
    else match top.node? (place ++ [s]) with
      | none => if rest.isEmpty then .ok (.vacant place s) else .error .notFound
      | some (.link target) =>
        if rest.isEmpty && !followLast then .ok (.present (place ++ [s]))
        else jump place (steps target ++ rest)
      | some _ => walk top followLast jump (place ++ [s]) rest

/-- Takes steps from a place, through at most so many links. -/
def walkLinks (top : Node) (followLast : Bool) : Nat → List Name → List Path.Part → Except FileFault Target
  | 0 => walk top followLast fun _ _ => .error .linkLoop
  | links + 1 => walk top followLast (walkLinks top followLast links)

/-- Where a path leads. -/
def target (fs : FileSystem) (followLast : Bool) (path : List Char) : Except FileFault Target :=
  if path.isEmpty then .error .notFound
  else walkLinks fs.top followLast 40 fs.current (steps path)

/-- The place of the node a path leads to. -/
def resolve (fs : FileSystem) (path : List Char) : Except FileFault (List Name) :=
  match fs.target true path with
  | .ok (.present place) => .ok place
  | .ok (.vacant _ _) => .error .notFound
  | .error fault => .error fault

/-- The node a path leads to, behind links. -/
def node (fs : FileSystem) (path : List Char) : Except FileFault Node :=
  match fs.resolve path with
  | .ok place => match fs.top.node? place with
    | some n => .ok n
    | none => .error .notFound
  | .error fault => .error fault

/-- The node a path leads to; a link at its end is not followed. -/
def nodeItself (fs : FileSystem) (path : List Char) : Except FileFault Node :=
  match fs.target false path with
  | .ok (.present place) => match fs.top.node? place with
    | some n => .ok n
    | none => .error .notFound
  | .ok (.vacant _ _) => .error .notFound
  | .error fault => .error fault

def present (fs : FileSystem) (path : List Char) : Bool :=
  match fs.node path with
  | .ok _ => true
  | .error _ => false

/-- The bytes of the file a path leads to. -/
def read (fs : FileSystem) (path : List Char) : Except FileFault ByteArray :=
  match fs.node path with
  | .ok (.file bytes) => .ok bytes
  | .ok _ => .error .isDirectory
  | .error fault => .error fault

/-- Writes a file, in place of what it held before. -/
def write (fs : FileSystem) (path : List Char) (bytes : ByteArray) : Except FileFault FileSystem :=
  match fs.target true path with
  | .error fault => .error fault
  | .ok (.vacant dir name) => .ok { fs with top := fs.top.set (.file bytes) (dir ++ [name]) }
  | .ok (.present place) => match fs.top.node? place with
    | some (.file _) => .ok { fs with top := fs.top.set (.file bytes) place }
    | _ => .error .isDirectory

/-- The text of a place, from the top. -/
def placeText (place : List Name) : List Char := if place.isEmpty then ['/'] else place.flatMap ('/' :: ·)

/-- The bytes of the file at a place, where `gone` tells which places have become unreadable since. -/
def readUnless (fs : FileSystem) (gone : List Name → Option FileFault) (place : List Name) :
    Except FileFault ByteArray :=
  match gone place with
  | some fault => .error fault
  | none => fs.read (placeText place)

/-! ## Making trees -/

/-- Puts a node where a path leads to a free name, and leaves the tree alone otherwise. -/
def putNew (fs : FileSystem) (followLast : Bool) (path : List Char) (node : Node) : FileSystem :=
  match fs.target followLast path with
  | .ok (.vacant dir name) => { fs with top := fs.top.set node (dir ++ [name]) }
  | _ => fs

/-- The paths that a path passes through, itself last. -/
def passedThrough (path : List Char) : List (List Char) :=
  ((Text.split '/' path).foldl (fun fronts p => fronts ++ [(fronts.getLastD []) ++ [p]]) []).map (Text.join '/')

/-- Makes the directory a path names, and those above it that are missing. -/
def makeDirs (fs : FileSystem) (path : List Char) : FileSystem :=
  (passedThrough path).foldl (fun fs p => fs.putNew true p (.dir [])) fs

/-- Makes the directories above the last name of a path. -/
def makeParents (fs : FileSystem) (path : List Char) : FileSystem :=
  fs.makeDirs (Text.join '/' (Text.split '/' path).dropLast)

/-- Takes away what a path leads to; a link at its end goes itself. -/
def remove (fs : FileSystem) (path : List Char) : FileSystem :=
  match fs.target false path with
  | .ok (.present place) => { fs with top := fs.top.remove place }
  | _ => fs

/-- A tree with one empty directory, the working directory. -/
def empty (current : List Name) : FileSystem := ⟨(Node.dir []).set (.dir []) current, current⟩

end FileSystem

end MarkerScan
