/-!
# Paths

A path is a text of segments between slashes. Its components are what counts for comparing: empty
segments and dots are dropped, except that a first dot stays a component of its own.
-/

namespace TestHistory

structure Path where
  text : String
  deriving DecidableEq, Repr

namespace Path

inductive Component where
  | root
  | here
  | parent
  | name (text : String)
  deriving DecidableEq, Repr

def addToSegments (c : Char) : List (List Char) → List (List Char)
  | [] => if c = '/' then [[], []] else [[c]]
  | segment :: rest => if c = '/' then [] :: segment :: rest else (c :: segment) :: rest

/-- The texts between slashes; at least one. -/
def segments (p : Path) : List String :=
  (p.text.toList.foldr addToSegments [[]]).map String.ofList

def isAbsolute (p : Path) : Bool :=
  p.text.toList.head? = some '/'

/-- The text joined to a path; an absolute text stands for itself. -/
def join (p : Path) (name : String) : Path :=
  if (Path.mk name).isAbsolute then ⟨name⟩
  else if p.text = "" ∨ p.text.toList.getLast? = some '/' then ⟨p.text ++ name⟩
  else ⟨p.text ++ "/" ++ name⟩

/-- A segment that adds nothing to the segments around it. -/
def isIdle (segment : String) : Bool :=
  segment = "" || segment = "."

def bodyComponent (segment : String) : Component :=
  if segment = ".." then .parent else .name segment

/-- The components of a path after its first segment, each with the segments that follow it. -/
def bodyParts : List String → List (Component × List String)
  | [] => []
  | segment :: rest =>
    if isIdle segment then bodyParts rest
    else (bodyComponent segment, rest) :: bodyParts rest

/-- Every component with the segments that follow it. -/
def parts (p : Path) : List (Component × List String) :=
  match p.segments with
  | "" :: segment :: rest => (.root, segment :: rest) :: bodyParts (segment :: rest)
  | "." :: rest => (.here, rest) :: bodyParts rest
  | segments => bodyParts segments

def components (p : Path) : List Component :=
  p.parts.map Prod.fst

/-- The last component, if it is a name. -/
def fileName? (p : Path) : Option String :=
  match p.components.getLast? with
  | some (.name text) => some text
  | _ => none

def joinSegments (segments : List String) : String :=
  "/".intercalate segments

def trimEnd (segments : List String) : List String :=
  (segments.reverse.dropWhile isIdle).reverse

/-- The path without what adds nothing at its end. -/
def trimmed (p : Path) : Path :=
  match p.segments with
  | "" :: segment :: rest => ⟨"/" ++ joinSegments (trimEnd (segment :: rest))⟩
  | "." :: rest =>
    match trimEnd rest with
    | [] => ⟨"."⟩
    | segments => ⟨"./" ++ joinSegments segments⟩
  | segments => ⟨joinSegments (trimEnd segments)⟩

/-- The part of a path below a base, if the base is where the path begins. -/
def relativeTo? (p base : Path) : Option Path :=
  match base.components.length with
  | 0 => some p.trimmed
  | n + 1 =>
    if base.components.isPrefixOf p.components then
      (p.parts[n]?).map fun part => ⟨joinSegments (trimEnd (part.2.dropWhile isIdle))⟩
    else none

/-- Names and dots only: no root and no way up. -/
def staysBelow (p : Path) : Bool :=
  p.components.all fun component => component ≠ .root && component ≠ .parent

end Path

end TestHistory
