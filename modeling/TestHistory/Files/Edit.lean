import TestHistory.Files.System

/-!
# Laying out trees of files

`put` sets a node and creates the directories on the way to it; `remove` takes a node away;
`filePaths` lists all files of a tree.
-/

namespace TestHistory

namespace Node

/-- The entries of a directory; a file has none. -/
def entries : Node → List (String × Node)
  | directory entries => entries
  | file .. => []

def isDirectory : Node → Bool
  | directory _ => true
  | file .. => false

/-- Sets a node under names from here; `none` takes it away. -/
def set (new : Option Node) : List String → Node → Node
  | [], node => new.getD node
  | [name], node =>
    match new with
    | some new => .directory (Keyed.put name new node.entries)
    | none => .directory (node.entries.filter fun entry => entry.1 ≠ name)
  | name :: rest, node =>
    let child := (node.entries.lookup name).getD (.directory [])
    .directory (Keyed.put name (set new rest child) node.entries)

mutual

/-- The names that lead to each file. -/
def files : Node → List (List String)
  | file .. => [[]]
  | directory entries => entryFiles entries

def entryFiles : List (String × Node) → List (List String)
  | [] => []
  | (name, node) :: entries => node.files.map (name :: ·) ++ entryFiles entries

end

end Node

namespace FileSystem

/-- A directory with nothing in it, to work in. -/
def empty : FileSystem :=
  ⟨.directory [("work", .directory [])], ["work"]⟩

/-- The names from the root to what a path names, dots resolved by name alone. -/
def namesOf (fs : FileSystem) (path : Path) : List String :=
  let start := if path.isAbsolute then [] else fs.working.reverse
  (path.segments.foldl (fun names segment =>
    if Path.isIdle segment then names
    else if segment = ".." then names.tail
    else segment :: names) start).reverse

def put (fs : FileSystem) (path : Path) (node : Node) : FileSystem :=
  { fs with root := fs.root.set (some node) (fs.namesOf path) }

/-- A directory that is there already stays as it is. -/
def makeDirectory (fs : FileSystem) (path : Path) : FileSystem :=
  if fs.isDirectory path then fs else fs.put path (.directory [])

/-- Takes away what is there. -/
def remove (fs : FileSystem) (path : Path) : FileSystem :=
  if fs.contains path then { fs with root := fs.root.set none (fs.namesOf path) } else fs

/-- The paths of all files below the working directory, sorted. -/
def filePaths (fs : FileSystem) : List String :=
  match fs.rootPlace.walk fs.working with
  | .ok place => (place.node.files.map Path.joinSegments).mergeSort fun a b => decide (a ≤ b)
  | .error _ => []

end FileSystem

end TestHistory
