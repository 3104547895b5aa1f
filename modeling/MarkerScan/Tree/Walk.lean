import MarkerScan.Glob.Basic
import MarkerScan.Text.Character
import MarkerScan.Text.LetterCase
import MarkerScan.Tree.FileSystem
/-
  MarkerScan.Tree.Walk — listing the files of a tree that a scan should read.

  A filter names directories to skip, gives patterns for paths of directories to skip,
  and says which extensions are wanted. The walk goes through a directory in the order
  of the names, compared by their UTF-8 bytes (which is the order of their code points),
  and into each directory that is not skipped where its name stands. It lists the files
  with a wanted extension; it lists no links and goes through none, but for the start,
  where a link stands for the file or directory that it leads to. The directory it starts
  at is never skipped. A start `-` is taken for standard input, which holds no files.

  An extension is what follows the last dot of a name. Extensions compare without regard
  to case, and one may be written `rs`, `.rs` or `*.rs`.
-/

namespace MarkerScan

/-- An extension without blanks, stars and dots in front of it, in small letters. -/
def normalizeExtension (e : List Char) : List Char :=
  Text.lower (((Text.trim e).dropWhile (· == '*')).dropWhile (· == '.'))

structure Filter where
  /-- The names of the directories to skip. -/
  folders : List Name
  /-- The patterns of the directories to skip. -/
  patterns : GlobSet
  /-- The extensions wanted, normalised. -/
  extensions : List (List Char)
  deriving DecidableEq, Repr

namespace Filter

def build [Glob.SizeLimit] (folders patterns extensions : List (List Char)) : Filter :=
  ⟨folders, .ofPatterns patterns, (extensions.map normalizeExtension).filter (!·.isEmpty)⟩

/-- Whether the directory `name` with this path is skipped, with all that is below it. -/
def skips (f : Filter) (name : Name) (path : List Char) : Bool :=
  f.folders.contains name || f.patterns.accepts path

/-- Whether a file with this path has a wanted extension. -/
def wants (f : Filter) (path : List Char) : Bool :=
  (Path.extension? path).any fun e => f.extensions.contains (Text.lower e)

end Filter

/-- The path of a place below the start of a walk. -/
def pathText (place : List Name) : List Char := ['/'].intercalate place

/-- The order of names, character by character. -/
def Name.le : Name → Name → Bool
  | [], _ => true
  | _ :: _, [] => false
  | a :: as, b :: bs => decide (a < b) || (a == b && Name.le as bs)

def lowerName (a b : Name × List (List Name)) : Bool := Name.le a.1 b.1

mutual
/-- The wanted files at or below a node that stands at `place`. -/
def Node.wanted (f : Filter) (place : List Name) : Node → List (List Name)
  | .file _ => if f.wants (place.getLastD []) then [place] else []
  | .link _ => []
  | .dir entries => ((Node.wantedIn f place entries).mergeSort lowerName).flatMap (·.2)
termination_by structural n => n

/-- The wanted files of each entry of the directory at `place`, with the name of the entry. -/
def Node.wantedIn (f : Filter) (place : List Name) : List (Name × Node) → List (Name × List (List Name))
  | [] => []
  | (name, .dir entries) :: rest =>
    let here := place ++ [name]
    (name, if f.skips name (pathText here) then [] else Node.wanted f here (.dir entries))
      :: Node.wantedIn f place rest
  | (name, node) :: rest => (name, Node.wanted f (place ++ [name]) node) :: Node.wantedIn f place rest
termination_by structural entries => entries
end

/-- The path `-`, however it is written: it stands for standard input. -/
def Path.isInput (path : List Char) : Bool := Path.parts path == [.name ['-']]

/-- The files to read below the path `start`, as places below it. A file given as the start is listed itself. -/
def FileSystem.walkFrom (fs : FileSystem) (f : Filter) (start : List Char) : List (List Name) :=
  if Path.isInput start then []
  else match fs.nodeItself start with
    | .ok (.file _) => if f.wants start then [[]] else []
    | .ok (.dir entries) => Node.wanted f [] (.dir entries)
    | .ok (.link _) => match fs.node start with
      | .ok (.file _) => if f.wants start then [[]] else []
      | .ok (.dir entries) => Node.wanted f [] (.dir entries)
      | _ => []
    | .error _ => []

end MarkerScan
