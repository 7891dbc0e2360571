import ScopedStyles.FileSystem
import ScopedStyles.Text.Split
/-!
# File trees

A file system as a tree of files, directories and symbolic links. A path is followed name by name
from the root or from the current directory; a link continues with its target in place of its name,
and a path may lead over at most `maxLinks` links.
-/

namespace ScopedStyles

/-- What stands at a place of a tree. -/
inductive FileNode where
  | file (content : List UInt8)
  | directory
  | link (target : Path)

/-- A place of a tree: the names that lead to it, innermost first. -/
abbrev Location := List (List UInt8)

/-- Files, directories and links at their places; a later entry for a place replaces those behind
it. The root is always a directory. -/
structure FileTree where
  nodes : List (Location × FileNode) := []
  /-- Where relative paths start. -/
  current : Location := []

namespace FileTree

/-- Links that one path may lead over. -/
def maxLinks : Nat := 40

/-- Bytes of the longest name. -/
def maxName : Nat := 255

/-- Bytes of the longest path. -/
def maxPath : Nat := 4095

/-- What stands at a place. -/
def node? (t : FileTree) (l : Location) : Option FileNode :=
  if l.isEmpty then some .directory else t.nodes.lookup l

/-- The names of a path. Around a slash at an end of the path and between two slashes stands the
empty name. -/
def steps (p : Path) : List (List UInt8) :=
  Text.splitOn Path.slash p.bytes

/-- Where following a path starts. -/
def start (p : Path) (here : Location) : Location :=
  if p.isAbsolute then [] else here

/-- Follows names from a place over at most `links` links. Every name, even an empty one, asks for
a directory to stand in. -/
def walk (t : FileTree) (links : Nat) (here : Location) :
    List (List UInt8) → Except FileFault Location
  | [] => .ok here
  | name :: rest =>
    match t.node? here with
    | none => .error .notFound
    | some (.file _) | some (.link _) => .error .notDirectory
    | some .directory =>
      if name.isEmpty || name = [Path.dot] then t.walk links here rest
      else if name = [Path.dot, Path.dot] then t.walk links here.tail rest
      else if maxName < name.length then .error .nameTooLong
      else match t.node? (name :: here) with
        | none => .error .notFound
        | some (.link target) =>
          match links with
          | 0 => .error .tooManyLinks
          | links + 1 => t.walk links (start target here) (steps target ++ rest)
        | some _ => t.walk links (name :: here) rest
termination_by names => (links, names.length)

/-- The place that a path leads to. -/
def locate (t : FileTree) (p : Path) : Except FileFault Location :=
  if p.bytes.contains 0 then .error .nulInPath
  else if p.bytes.isEmpty then .error .notFound
  else if maxPath < p.bytes.length then .error .nameTooLong
  else t.walk maxLinks (start p t.current) (steps p)

/-- The absolute path to a place. -/
def pathTo : Location → Path
  | [] => ⟨[Path.slash]⟩
  | l => ⟨l.reverse.flatMap (Path.slash :: ·)⟩

/-- What a path leads to. -/
def find (t : FileTree) (p : Path) : Except FileFault FileNode := do
  match t.node? (← t.locate p) with
  | some node => .ok node
  | none => .error .notFound

/-- The tree as a file system. -/
def toFileSystem (t : FileTree) : FileSystem where
  kind? p := match t.find p with
    | .ok (.file _) => some .file
    | .ok .directory => some .directory
    | _ => none
  canonical? p := match t.locate p with
    | .ok l => some (pathTo l)
    | .error _ => none
  read p := do match ← t.find p with
    | .file content => .ok content
    | .directory => .error .isDirectory
    | .link _ => .error .tooManyLinks

/-- Puts a node at a place. -/
def put (t : FileTree) (l : Location) (node : FileNode) : FileTree :=
  { t with nodes := (l, node) :: t.nodes }

/-- The place that names lead to from `here`, where directories that are missing are made. -/
def makeDirectories (t : FileTree) (here : Location) : List (List UInt8) → FileTree × Location
  | [] => (t, here)
  | name :: rest =>
    match t.walk maxLinks here [name] with
    | .ok there => t.makeDirectories there rest
    | .error _ => (t.put (name :: here) .directory).makeDirectories (name :: here) rest

/-- Adds a node under a path and makes the directories that lead there. A file under a link that
leads somewhere goes to that place. -/
def add (t : FileTree) (p : Path) (node : FileNode) : FileTree :=
  let (names, last) := match (steps p).reverse with
    | last :: names => (names.reverse, last)
    | [] => ([], [])
  match node with
  | .directory => (t.makeDirectories (start p t.current) (names ++ [last])).1
  | .link _ =>
    let (t, here) := t.makeDirectories (start p t.current) names
    t.put (last :: here) node
  | .file _ =>
    let (t, here) := t.makeDirectories (start p t.current) names
    match t.walk maxLinks here [last] with
    | .ok there => t.put there node
    | .error _ => t.put (last :: here) node

end FileTree

end ScopedStyles
