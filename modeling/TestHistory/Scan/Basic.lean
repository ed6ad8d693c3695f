import TestHistory.Decimal.Grouped
import TestHistory.Failure
import TestHistory.Scan.Extract

/-!
# Reading a tree of results

The root holds one directory for every run. `readRun` reads one of them; `scan` reads all, skips
those that cannot be read, and keeps the ids of the others apart.
-/

namespace TestHistory

/-! ### One run -/

/-- The end of a console log, with a notice when it was cut. -/
def consoleText (maxLines : Nat) (text : String) : String :=
  let tail := Text.tailLines text maxLines
  if tail.truncated then
    "Log truncated. Showing last " ++ Decimal.groupThousands maxLines ++ " of " ++
      Decimal.groupThousands tail.totalLines ++ " lines.\n\n" ++ tail.text
  else tail.text

/-- A log that does not exist is empty. -/
def readConsoleLog (fs : FileSystem) (path : Path) (maxLines : Nat) : Logged String :=
  match fs.node path with
  | .error _ => return ""
  | .ok (.file bytes _) => return consoleText maxLines (Text.decodeLossy bytes)
  | .ok (.directory _) => do
    Logged.warn "Could not read console log"
    return "Error reading log file: " ++ FileError.isDirectory.message

/-- Why a run directory holds no run. -/
inductive RunError where
  | reading (path : Path)
  | parsing (path : Path)
  deriving DecidableEq, Repr

def RunError.message : RunError → String
  | reading path => "reading " ++ path.text
  | parsing path => "parsing " ++ path.text

def artifactsDir (dir : Path) : Path :=
  dir.join "artifacts"

def runMetadataPath (dir : Path) : Path :=
  (artifactsDir dir).join metadataFile

def reportPath (dir : Path) : Path :=
  (dir.join "reports").join "report.json"

def consoleLogPath (dir : Path) : Path :=
  (dir.join "reports").join "test-output.log"

def readMetadata (fs : FileSystem) (dir : Path) : Except RunError Metadata :=
  match fs.readText (runMetadataPath dir) with
  | .error _ => .error (.reading (runMetadataPath dir))
  | .ok text =>
    match (Json.Tree.parse? text).bind Metadata.decode with
    | some metadata => .ok metadata
    | none => .error (.parsing (runMetadataPath dir))

/-- What a report holds; one that is no list has no suites. -/
inductive ReportShape where
  | suites (suites : List Suite)
  | noList

def readReport (fs : FileSystem) (dir : Path) : Except RunError ReportShape :=
  match fs.readText (reportPath dir) with
  | .error _ => .error (.reading (reportPath dir))
  | .ok text =>
    match Json.Value.parse? text with
    | none => .error (.parsing (reportPath dir))
    | some (.array items) =>
      match Suite.decodeAll (.array items) with
      | some suites => .ok (.suites suites)
      | none => .error (.parsing (reportPath dir))
    | some _ => .ok .noList

def reportedSuites : ReportShape → Logged (List Suite)
  | .suites suites => return suites
  | .noList => do
    Logged.warn "Report is not a list of suites; run has no tests"
    return []

/-- The start that the metadata states, or else the time when it was written. -/
def startTimeOf (fs : FileSystem) (dir : Path) (metadata : Metadata) : String :=
  match metadata.startTime.filter fun text => !Text.isBlankText text with
  | some text => text
  | none => ((fs.modified? (runMetadataPath dir)).map Time.Instant.text).getD ""

/-- The run of its parts; figures that the metadata does not state are counted. -/
def assembleRun (fs : FileSystem) (dir : Path) (metadata : Metadata) (tests : List TestRecord)
    (consoleLog : String) : Run where
  id := metadata.runId.getD (dir.fileName?.getD "")
  startTime := startTimeOf fs dir metadata
  totalTests := metadata.totalTests.getD tests.length
  passedTests := metadata.passedTests.getD (tests.countP fun t => t.state.isPassed)
  failedTests := metadata.failedTests.getD (tests.countP fun t => t.state.isFailed)
  environment := metadata.environment
  totalRuntime := Binary64.sum (-0.0) (tests.map TestRecord.runtime)
  commit := metadata.commit
  branch := metadata.branch
  dirty := metadata.dirty
  description := metadata.description
  consoleLog
  tests

/-- What is read of a run once its metadata and report are there. -/
def readTests (fs : FileSystem) (dir root : Path) (options : ScanOptions) (report : ReportShape) :
    Logged (List TestRecord) := do
  let suites ← reportedSuites report
  let index ← ArtifactIndex.build fs (artifactsDir dir)
  Logged.debug "Indexed test artifacts"
  extractTests ⟨fs, index, root, options⟩ suites

def readRun (fs : FileSystem) (dir root : Path) (options : ScanOptions) :
    Logged (Except RunError Run) :=
  match readMetadata fs dir, readReport fs dir with
  | .error e, _ => return .error e
  | _, .error e => return .error e
  | .ok metadata, .ok report => do
    let tests ← readTests fs dir root options report
    let consoleLog ← readConsoleLog fs (consoleLogPath dir) options.consoleLogMaxLines
    return .ok (assembleRun fs dir metadata tests consoleLog)

/-! ### All runs -/

/-- An id with the name of its directory. -/
def distinctId (id : String) (dir : Path) : String :=
  id ++ " (" ++ dir.fileName?.getD "" ++ ")"

/-- The runs so far, the last one first, and all their ids. -/
structure Scanned where
  runs : List Run
  ids : List String

/-- The id that a run gets: its own, unless another run has it. -/
def assignId (ids : List String) (dir : Path) (run : Run) : Logged Run := do
  if ids.contains run.id then
    Logged.warn "Duplicate run id"
    return { run with id := distinctId run.id dir }
  else return run

def scanStep (fs : FileSystem) (root : Path) (options : ScanOptions) (scanned : Scanned)
    (dir : Path) : Logged Scanned := do
  match ← readRun fs dir root options with
  | .error _ =>
    Logged.warn "Skipping run"
    return scanned
  | .ok run =>
    let run ← assignId scanned.ids dir run
    Logged.debug "Parsed run"
    return ⟨run :: scanned.runs, run.id :: scanned.ids⟩

/-- The directories of the root whose name begins as those of runs do, in the order of names. -/
def runDirectories (fs : FileSystem) (root : Path) (options : ScanOptions) (names : List String) :
    List Path :=
  ((names.filter fun name => options.runPrefix.toList.isPrefixOf name.toList).map root.join).filter
    fs.isDirectory

/-- All runs below a root, newest first. A root that is no directory has none. -/
def scan (fs : FileSystem) (root : Path) (options : ScanOptions) :
    Logged (Except Failure (List Run)) :=
  if fs.isDirectory root then
    match fs.names root with
    | .error e => return .error (.io e.message)
    | .ok names => do
      let dirs := runDirectories fs root options names
      Logged.debug "Found run directories"
      let scanned ← dirs.foldlM (scanStep fs root options) ⟨[], []⟩
      Logged.info "Scan complete"
      return .ok (Run.sortNewestFirst scanned.runs.reverse)
  else do
    Logged.warn "Results directory not found"
    return .ok []

end TestHistory
