import TestHistory.Files.System
import TestHistory.Log
import TestHistory.Run.Artifact
import TestHistory.Scan.Options
import TestHistory.Text.Blank
import TestHistory.Text.Lines
import TestHistory.Text.Utf8

/-!
# Artifact directories

Every directory of artifacts declares in its metadata the test that it belongs to. `ArtifactIndex`
finds the directory of a test; `loadArtifact` reads one directory with the files that its metadata
lists, as far as they lie inside it.
-/

namespace TestHistory

def metadataFile : String := "metadata.json"

/-! ### Listed files -/

/-- A text that is cut says so at its end. -/
def truncationMark : String := "\n... (truncated)"

def logContent (options : ScanOptions) (text : String) : FileContent :=
  let tail := Text.tailLines text options.artifactLogTailLines
  ⟨tail.text, .log, some tail.truncated, some tail.totalLines⟩

def resourceText (maxBytes : Nat) (text : String) : String :=
  match Text.cutBytes text maxBytes with
  | some cut => cut ++ truncationMark
  | none => text

def fileContent (options : ScanOptions) : FileKind → String → FileContent
  | .log, text => logContent options text
  | .resource, text => ⟨resourceText options.resourceMaxBytes text, .resource, none, none⟩
  | kind, text => ⟨text, kind, none, none⟩

def isSafeName (name : String) : Bool :=
  name ≠ "" && (Path.mk name).staysBelow

/-- The content of a listed file. One that does not exist has none; an unsafe name and a failed
read give an error in its place. -/
def readListed (fs : FileSystem) (options : ScanOptions) (dir : Path) (kind : FileKind)
    (name : String) : Logged (Option FileContent) :=
  if isSafeName name then
    match fs.node (dir.join name) with
    | .error _ => do
      Logged.debug "Listed artifact file is missing"
      return none
    | .ok (.file bytes _) => return some (fileContent options kind (Text.decodeLossy bytes))
    | .ok (.directory _) => return some (.ofError FileError.isDirectory.message)
  else do
    Logged.warn "Refusing artifact path outside its directory"
    return some (.ofError
      ("Refusing to read '" ++ name ++ "': path escapes the artifact directory"))

/-- The files to embed, in the order of reading. -/
def listedFiles (options : ScanOptions) (files : Inventory) : List (FileKind × String) :=
  files.logFiles.map (FileKind.log, ·) ++
    (files.resourceFiles.take options.resourceMaxFiles).map (FileKind.resource, ·) ++
    files.eventFiles.map (FileKind.events, ·)

def readEntry (fs : FileSystem) (options : ScanOptions) (dir : Path)
    (file : FileKind × String) : Logged (Option (String × FileContent)) := do
  return (← readListed fs options dir file.1 file.2).map fun content => (file.2, content)

/-- Of a name that is listed several times the last content counts. -/
def readContents (fs : FileSystem) (options : ScanOptions) (dir : Path) (files : Inventory) :
    Logged (List (String × FileContent)) := do
  return Keyed.ofList ((← (listedFiles options files).mapM (readEntry fs options dir)).filterMap id)

/-! ### Directories -/

/-- The record of an artifact directory, its path taken from the root of all results. -/
def loadArtifact (fs : FileSystem) (dir root : Path) (options : ScanOptions) :
    Logged (Option Artifact) :=
  match fs.readText (dir.join metadataFile) with
  | .error _ => return none
  | .ok text =>
    match (Json.Tree.parse? text).bind Artifact.decode with
    | none => do
      Logged.warn "Invalid artifact metadata"
      return none
    | some artifact => do
      let contents ← readContents fs options dir artifact.files
      return some { artifact with
        relativePath := ((dir.relativeTo? root).getD dir).text
        contents }

/-- The name of the test that metadata declares, trimmed; a blank name declares none. -/
def declaredName (metadata : Json.Value) : Option String :=
  match metadata.field? "name" with
  | some (.string name) => if Text.trim name = "" then none else some (Text.trim name)
  | _ => none

def readDeclaredName (fs : FileSystem) (dir : Path) : Logged (Option String) :=
  match fs.readText (dir.join metadataFile) with
  | .error _ => return none
  | .ok text =>
    match Json.Value.parse? text with
    | some metadata => return declaredName metadata
    | none => do
      Logged.debug "Skipping unreadable artifact metadata"
      return none

/-- The directories by the names that they declare. -/
structure ArtifactIndex where
  entries : List (String × Path)

namespace ArtifactIndex

/-- The later directory of a name counts. -/
def add (fs : FileSystem) (index : ArtifactIndex) (dir : Path) : Logged ArtifactIndex := do
  match ← readDeclaredName fs dir with
  | none => return index
  | some name =>
    if (index.entries.lookup name).isSome then
      Logged.debug "Duplicate artifact name, keeping the later directory"
    return ⟨Keyed.put name dir index.entries⟩

/-- The directories in a directory, in the order of their names. -/
def directories (fs : FileSystem) (parent : Path) : List Path :=
  match fs.names parent with
  | .ok names => (names.map parent.join).filter fs.isDirectory
  | .error _ => []

def build (fs : FileSystem) (parent : Path) : Logged ArtifactIndex :=
  (directories fs parent).foldlM (add fs) ⟨[]⟩

def lookup (index : ArtifactIndex) (testName : String) : Option Path :=
  index.entries.lookup (Text.trim testName)

def load (index : ArtifactIndex) (fs : FileSystem) (testName : String) (root : Path)
    (options : ScanOptions) : Logged (Option Artifact) :=
  match index.lookup testName with
  | some dir => loadArtifact fs dir root options
  | none => return none

end ArtifactIndex

end TestHistory
