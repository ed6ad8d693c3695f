import TestHistory.Analysis.Answer
import TestHistory.Analysis.Report
import TestHistory.CommandLine.Arguments
import TestHistory.Page.Document
import TestHistory.Scan.Basic
import TestHistory.Terminal.Listing

/-!
# What the commands do

Every command loads the settings and the runs below its path. `generate` writes the page of the
report and is the only command that changes a file; `compare` and `flaky` print their answers. An
occasion also says what no user decides: the order of hash maps, and how far a write goes.
-/

namespace TestHistory.CommandLine

open Json (Value)

/-- What a command finds when it starts. -/
structure Surroundings where
  files : FileSystem
  /-- The variables of the environment. -/
  environment : List (String × String)
  /-- The time on the user's clock. -/
  clock : Time.Timestamp
  /-- Whether the output goes to a terminal. -/
  onTerminal : Bool
  errorsOnTerminal : Bool

/-- Surroundings with what is left to chance. -/
structure Occasion extends Surroundings where
  orders : Config.Orders := .document
  /-- What becomes of a write, if it is stopped. -/
  fault : Option Fault := none

instance : Coe Surroundings Occasion :=
  ⟨fun s => { s with }⟩

/-- What a command leaves behind. -/
structure Outcome where
  files : FileSystem
  /-- The file that was opened for writing. -/
  written : Option Path
  output : String
  failure : Option Failure

namespace Occasion

/-- An outcome that changes no file. -/
def print (o : Occasion) (output : String) : Outcome :=
  ⟨o.files, none, output, none⟩

/-- A failure after some output. -/
def fail (o : Occasion) (output : String) (failure : Failure) : Outcome :=
  ⟨o.files, none, output, some failure⟩

end Occasion

def jsonLine (v : Value) : String :=
  v.pretty ++ "\n"

def noRunsLine : String := "No runs found.\n"

/-- The settings for a root, and its runs, newest first. -/
def loadRuns (o : Occasion) (a : Arguments) :
    Logged (Except Failure (Config × List Run)) := do
  match ← Config.load o.files a.path o.environment a.overrides o.orders with
  | .error e => return .error e
  | .ok config =>
    match ← scan o.files a.path config.scan with
    | .error e => return .error e
    | .ok runs => return .ok (config, runs)

def buildReport (runs : List Run) : Logged Report := do
  Logged.debug "Aggregated report data"
  return Report.ofRuns runs

def listingOptions (o : Occasion) (a : Arguments) : Terminal.Options :=
  ⟨o.onTerminal && !a.noColor, Terminal.columnsOf (o.environment.lookup "COLUMNS")⟩

/-! ### The report -/

/-- What is printed before anything is read. -/
def scanningLine (a : Arguments) : String :=
  if a.json || a.quiet then "" else "Scanning " ++ a.path.text ++ "...\n"

/-- The answer when there is nothing to report. -/
def emptyAnswer (a : Arguments) (summary : Summary) : String :=
  if a.json then jsonLine (generatedJson none summary) else noRunsLine

/-- The answer when the report stands in a file. -/
def writtenAnswer (a : Arguments) (path : Path) (summary : Summary) : String :=
  if a.json then jsonLine (generatedJson (some path.text) summary)
  else if a.quiet then ""
  else "Report generated at: " ++ path.text ++ "\n"

def pageOf (o : Occasion) (config : Config) (report : Report) : String :=
  Page.render report ⟨config.title, config.chartJsUrl, o.clock.shortText⟩

def writeReport (o : Occasion) (a : Arguments) (config : Config) (report : Report) :
    Logged Outcome := do
  let path := config.outputPath a.path
  match o.files.write path (pageOf o config report).toUTF8 o.clock.instant o.fault with
  | .error e => return o.fail (scanningLine a) (.writeReport path.text e.message)
  | .ok (files, some e) =>
    return ⟨files, some path, scanningLine a, some (.writeReport path.text e.message)⟩
  | .ok (files, none) =>
    Logged.info "Report written"
    return ⟨files, some path, scanningLine a ++ writtenAnswer a path report.summary, none⟩

def generate (o : Occasion) (a : Arguments) : Logged Outcome := do
  match ← loadRuns o a with
  | .error e => return o.fail (scanningLine a) e
  | .ok (config, runs) =>
    let report ← buildReport runs
    if runs.isEmpty then return o.print (scanningLine a ++ emptyAnswer a report.summary)
    else writeReport o a config report

/-! ### Comparing two runs -/

def headline (run : Run) : String :=
  Terminal.runLabel run.id run.date run.totalRuntime

/-- The two runs, and what has changed between them. -/
def comparisonAnswer (options : Terminal.Options) (base head : Run) (c : Comparison) : String :=
  "Base: " ++ headline base ++ "\nHead: " ++ headline head ++ "\n\n" ++
    Terminal.comparisonText options c

def compare (o : Occasion) (a : Arguments) : Logged Outcome := do
  match ← loadRuns o a with
  | .error e => return o.fail "" e
  | .ok (_, runs) =>
    if runs.isEmpty then return o.print noRunsLine
    else
      match resolvePair runs a.base a.head with
      | .error e => return o.fail "" e
      | .ok (base, head) =>
        Logged.debug "Comparing runs"
        let comparison := Comparison.ofRows (pivot runs) base.id head.id
        if a.json then return o.print (jsonLine comparison.toJson)
        else return o.print (comparisonAnswer (listingOptions o a) base head comparison)

/-! ### Flaky tests -/

def flaky (o : Occasion) (a : Arguments) : Logged Outcome := do
  match ← loadRuns o a with
  | .error e => return o.fail "" e
  | .ok (_, runs) =>
    let report ← buildReport runs
    if a.json then return o.print (jsonLine (flakyJson report.rows))
    else if runs.isEmpty then return o.print noRunsLine
    else return o.print (Terminal.flakyText (listingOptions o a) report.rows)

def act (o : Occasion) (a : Arguments) : Logged Outcome :=
  match a.command with
  | .generate => generate o a
  | .compare => compare o a
  | .flaky => flaky o a

end TestHistory.CommandLine
