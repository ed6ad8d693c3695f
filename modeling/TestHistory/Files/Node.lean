import TestHistory.Keyed
import TestHistory.Time.Instant

/-!
# Trees of files

A node is a file or a directory of named nodes. A place is a node together with the directories
around it, so that one can walk down by name, walk up, and put another node in its place.
-/

namespace TestHistory

inductive Node where
  | file (content : ByteArray) (modified : Time.Instant)
  /-- Sorted by name. -/
  | directory (entries : List (String × Node))

/-- Why a path leads to nothing or to something of the wrong kind, or why a write stops. -/
inductive FileError where
  | notFound
  | notDirectory
  | isDirectory
  | nameTooLong
  | hasNull
  | notText
  | noSpace
  deriving DecidableEq, Repr

namespace FileError

def message : FileError → String
  | notFound => "No such file or directory (os error 2)"
  | notDirectory => "Not a directory (os error 20)"
  | isDirectory => "Is a directory (os error 21)"
  | nameTooLong => "File name too long (os error 36)"
  | hasNull => "file name contained an unexpected NUL byte"
  | notText => "stream did not contain valid UTF-8"
  | noSpace => "No space left on device (os error 28)"

end FileError

structure Place where
  node : Node
  /-- The directories around the node, the innermost first, each with the name that leads on. -/
  above : List (String × List (String × Node))

def maxNameBytes : Nat := 255

namespace Place

/-- The root is above itself. -/
def parent (place : Place) : Place :=
  match place.above with
  | [] => place
  | (_, entries) :: above => ⟨.directory entries, above⟩

/-- One segment of a path; only a directory leads on. -/
def step (place : Place) (segment : String) : Except FileError Place :=
  match place.node with
  | .file .. => .error .notDirectory
  | .directory entries =>
    if segment = "" ∨ segment = "." then .ok place
    else if segment = ".." then .ok place.parent
    else if maxNameBytes < segment.utf8ByteSize then .error .nameTooLong
    else match entries.lookup segment with
      | some node => .ok ⟨node, (segment, entries) :: place.above⟩
      | none => .error .notFound

def walk (place : Place) : List String → Except FileError Place
  | [] => .ok place
  | segment :: rest =>
    match place.step segment with
    | .ok next => next.walk rest
    | .error e => .error e

/-- The whole tree with the node of a place in it. -/
def rebuild (node : Node) : List (String × List (String × Node)) → Node
  | [] => node
  | (name, entries) :: above => rebuild (.directory (Keyed.put name node entries)) above

end Place

end TestHistory
