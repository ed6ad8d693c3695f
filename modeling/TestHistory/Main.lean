import Std.Time.Zoned
import TestHistory.CommandLine.Program
import TestHistory.Files.Edit

/-!
# The command line

The files that a call may look at are read first. The program then runs on them, and what it
leaves behind is written and printed.
-/

namespace TestHistory

open CommandLine

/-! ### Reading the disk -/

def instantOf (t : IO.FS.SystemTime) : Time.Instant :=
  .ofUnix t.sec t.nsec.toNat

/-- The names in a directory; anything else has none. -/
def listNames (path : Path) : IO (List String) := do
  try
    return (← (← IO.FS.realPath path.text).readDir).toList.map fun entry => entry.fileName
  catch _ => return []

/-- What stands at a path: a file, or a directory with as many levels below it. What cannot be
read is left out. -/
def readNode? : Nat → Path → IO (Option Node)
  | levels, path => do
    try
      let info ← (← IO.FS.realPath path.text).metadata
      match info.type, levels with
      | .dir, 0 => return some (.directory [])
      | .dir, levels + 1 =>
        let entries ← (← listNames path).filterMapM fun name => do
          return (← readNode? levels (path.join name)).map fun node => (name, node)
        return some (.directory (Keyed.ofList entries))
      | .file, _ =>
        return some (.file (← IO.FS.readBinFile path.text) (instantOf info.modified))
      | _, _ => return none
    catch _ => return none

/-- No tree of results is deeper. -/
def allLevels : Nat := 64

/-- The directories on the way to a path. -/
def wayTo (path : Path) : List Path :=
  let segments := path.segments
  (List.range segments.length).filterMap fun n =>
    let text := Path.joinSegments (segments.take n)
    if text = "" then none else some ⟨text⟩

def addNode (levels : Nat) (files : FileSystem) (path : Path) : IO FileSystem := do
  match ← readNode? levels path with
  | some node => return files.put path node
  | none => return files

/-- What stands at a path itself and on the way to it, as far as it is not known yet. -/
def addPath (files : FileSystem) (path : Path) : IO FileSystem :=
  (wayTo path ++ [path]).foldlM (fun files path =>
    if files.contains path then pure files else addNode 0 files path) files

/-- The files that may hold settings. -/
def settingsFiles (environment : List (String × String)) (a : Arguments) : List Path :=
  ((environment.lookup "HOME").map Config.userFile).toList ++
    [a.config.getD (a.path.join Config.projectFile)]

/-- The run directories of a root, and the place of the report. -/
def addResults (files : FileSystem) (a : Arguments) (config : Config) : IO FileSystem := do
  let starts (name : String) := config.scan.runPrefix.toList.isPrefixOf name.toList
  let runs := ((← listNames a.path).filter starts).map a.path.join
  addPath (← runs.foldlM (addNode allLevels) files) (config.outputPath a.path)

/-- The files for a call, in the working directory of the process. -/
def survey (environment : List (String × String)) (a : Arguments) : IO FileSystem := do
  let working := (← IO.currentDir).toString.splitOn "/"
  let start : FileSystem := ⟨.directory [], working.filter (· ≠ "")⟩
  let files ← addPath (start.makeDirectory ⟨"."⟩) a.path
  let files ← (settingsFiles environment a).foldlM addPath files
  match (Config.load files a.path environment a.overrides).value with
  | .ok config => addResults files a config
  | .error _ => return files

/-! ### The process -/

def variableOf (entry : String) : Option (String × String) :=
  match entry.splitOn "=" with
  | name :: value@(_ :: _) => some (name, "=".intercalate value)
  | _ => none

def readVariables : IO (List (String × String)) := do
  try
    let bytes ← IO.FS.readBinFile "/proc/self/environ"
    return ((Text.decodeLossy bytes).splitOn "\x00").filterMap variableOf
  catch _ => return []

/-- The time on the clock of the process, in its own time zone. -/
def readClock : IO Time.Timestamp := do
  let now ← Std.Time.PlainDateTime.now
  let date : Time.Date := ⟨now.year.toInt, now.month.toNat, now.day.toNat⟩
  return ⟨date, now.hour.toNat, now.minute.toNat, now.second.toNat, now.nanosecond.toNat, 0⟩

/-- Writes the changed file and prints the answer; what goes wrong with the file is told instead
of the answer. -/
def leave (ending : Ending) : IO UInt32 := do
  try
    if let some path := ending.written then
      if let .ok content := ending.files.readBytes path then
        IO.FS.writeBinFile path.text content
    IO.eprint ending.errors
    IO.print ending.output
    return ending.exitCode.toUInt32
  catch e =>
    let path := (ending.written.map Path.text).getD ""
    let failure := Failure.writeReport path (toString e)
    IO.eprint (jsonLine failure.toJson)
    return failure.code.exitCode.toUInt32

end TestHistory

open TestHistory in
/-- Reads, runs, writes and prints. -/
def main (args : List String) : IO UInt32 := do
  let environment ← readVariables
  let files ←
    match CommandLine.Arguments.parse args environment with
    | .ok a => survey environment a
    | .error _ => pure FileSystem.empty
  let onTerminal ← (← IO.getStdout).isTty
  let errorsOnTerminal ← (← IO.getStderr).isTty
  let surroundings : CommandLine.Surroundings :=
    ⟨files, environment, ← readClock, onTerminal, errorsOnTerminal⟩
  leave (CommandLine.run surroundings args)
