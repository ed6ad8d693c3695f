import TestHistory.Files.Node
import TestHistory.Files.Path

/-!
# Files by path

A file system is a tree and the directory in it that relative paths start from. Reading never
changes it; `write` opens one file and fills it as far as the device goes.
-/

namespace TestHistory

structure FileSystem where
  root : Node
  /-- The names that lead from the root to the working directory. -/
  working : List String

def maxPathBytes : Nat := 4096

/-- A write that stops: how many bytes a device takes, and what it tells then. -/
structure Fault where
  stored : Nat
  error : FileError

/-- What of a content is stored, and what is told if that is not all of it. -/
def Fault.cut (fault : Option Fault) (content : ByteArray) : ByteArray × Option FileError :=
  match fault with
  | some fault =>
    if fault.stored < content.size then (content.extract 0 fault.stored, some fault.error)
    else (content, none)
  | none => (content, none)

namespace FileSystem

def rootPlace (fs : FileSystem) : Place :=
  ⟨fs.root, []⟩

/-- Where a path starts, with its segments. -/
def origin (fs : FileSystem) (path : Path) : Except FileError Place :=
  if path.text.toList.contains '\x00' then .error .hasNull
  else if maxPathBytes ≤ path.text.utf8ByteSize then .error .nameTooLong
  else if path.text = "" then .error .notFound
  else if path.isAbsolute then .ok fs.rootPlace
  else fs.rootPlace.walk fs.working

def locate (fs : FileSystem) (path : Path) : Except FileError Place := do
  (← fs.origin path).walk path.segments

def node (fs : FileSystem) (path : Path) : Except FileError Node :=
  (fs.locate path).map Place.node

def contains (fs : FileSystem) (path : Path) : Bool :=
  (fs.node path).toOption.isSome

def isDirectory (fs : FileSystem) (path : Path) : Bool :=
  match fs.node path with
  | .ok (.directory _) => true
  | _ => false

/-- The names in a directory, sorted. -/
def names (fs : FileSystem) (path : Path) : Except FileError (List String) :=
  match fs.node path with
  | .ok (.directory entries) => .ok (entries.map Prod.fst)
  | .ok (.file ..) => .error .notDirectory
  | .error e => .error e

def readBytes (fs : FileSystem) (path : Path) : Except FileError ByteArray :=
  match fs.node path with
  | .ok (.file content _) => .ok content
  | .ok (.directory _) => .error .isDirectory
  | .error e => .error e

def readText (fs : FileSystem) (path : Path) : Except FileError String :=
  match fs.readBytes path with
  | .ok content =>
    match String.fromUTF8? content with
    | some text => .ok text
    | none => .error .notText
  | .error e => .error e

/-- When a file was last written. -/
def modified? (fs : FileSystem) (path : Path) : Option Time.Instant :=
  match fs.node path with
  | .ok (.file _ modified) => some modified
  | _ => none

/-- The segments of the directory that a path lies in, and the name of a file in it. A path that
ends in a slash or in dots names no file. -/
def target (path : Path) : List String × Option String :=
  match path.segments.reverse.dropWhile (· = "") with
  | [] => ([], none)
  | name :: directory =>
    let namesFile := path.text.toList.getLast? ≠ some '/' ∧ name ≠ "." ∧ name ≠ ".."
    (directory.reverse, if namesFile then some name else none)

/-- Puts one file in place; its directory has to exist. -/
def setFile (fs : FileSystem) (path : Path) (content : ByteArray) (modified : Time.Instant) :
    Except FileError FileSystem := do
  let directory ← (← fs.origin path).walk (target path).1
  match directory.node, (target path).2 with
  | .file .., _ => .error .notDirectory
  | .directory _, none => .error .isDirectory
  | .directory entries, some name =>
    if maxNameBytes < name.utf8ByteSize then .error .nameTooLong
    else match entries.lookup name with
      | some (.directory _) => .error .isDirectory
      | _ =>
        let changed := Node.directory (Keyed.put name (.file content modified) entries)
        .ok { fs with root := Place.rebuild changed directory.above }

/-- Opens a file, which empties it, and writes what the device takes. A file that cannot be opened
stays as it is; one that was opened holds what was stored, whatever is told in the end. -/
def write (fs : FileSystem) (path : Path) (content : ByteArray) (modified : Time.Instant)
    (fault : Option Fault) : Except FileError (FileSystem × Option FileError) := do
  let stored := Fault.cut fault content
  return (← fs.setFile path stored.1 modified, stored.2)

end FileSystem

end TestHistory
