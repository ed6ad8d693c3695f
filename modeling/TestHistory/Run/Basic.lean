import TestHistory.Run.Artifact
import TestHistory.Run.State
import TestHistory.Time.Timestamp

/-!
# Runs and their tests

A run is one execution of the whole suite, with a record for each of its tests. Runs are ordered
by the instant they started at; one whose start time names no instant comes before all others,
and equal instants are ordered by their text.
-/

namespace TestHistory

open Json (Value)

/-- One test in one run. -/
structure TestRecord where
  fullName : String
  leafText : String
  state : TestState
  /-- In seconds. -/
  runtime : Float
  failureMessage : String
  labels : List String
  containers : List String
  startTime : String
  endTime : String
  artifact : Option Artifact

structure Run where
  id : String
  startTime : String
  totalTests : Nat
  passedTests : Nat
  failedTests : Nat
  environment : List (String × Value)
  /-- In seconds. -/
  totalRuntime : Float
  commit : String
  branch : String
  dirty : String
  description : String
  consoleLog : String
  tests : List TestRecord

namespace TestRecord

def toJson (t : TestRecord) : Value :=
  .object [
    ("full_name", .string t.fullName),
    ("leaf_text", .string t.leafText),
    ("state", t.state.toJson),
    ("runtime", Json.ofFloat t.runtime),
    ("failure_message", .string t.failureMessage),
    ("labels", Json.ofStrings t.labels),
    ("container_hierarchy", Json.ofStrings t.containers),
    ("start_time", .string t.startTime),
    ("end_time", .string t.endTime),
    ("artifact_metadata", Json.ofOption Artifact.toJson t.artifact)]

end TestRecord

/-- `part / whole` in percent, nothing being no percent of nothing. -/
def percentage (part whole : Nat) : Float :=
  if whole = 0 then 0.0 else Binary64.ofNat part / Binary64.ofNat whole * 100.0

namespace Run

def startedAt (r : Run) : Option Time.Instant :=
  Time.parseInstant r.startTime

/-- The start time as a date and a time of day. -/
def date (r : Run) : String :=
  Time.shortDate r.startTime

def passRate (r : Run) : Float :=
  percentage r.passedTests r.totalTests

/-- An absent instant comes first. -/
def compareInstants : Option Time.Instant → Option Time.Instant → Ordering
  | none, none => .eq
  | none, some _ => .lt
  | some _, none => .gt
  | some a, some b => Time.Instant.compare a b

/-- The order of time, oldest first. -/
def compare (a b : Run) : Ordering :=
  (compareInstants a.startedAt b.startedAt).then (Ord.compare a.startTime b.startTime)

/-- Runs that compare equal keep their order. -/
def sortNewestFirst (runs : List Run) : List Run :=
  runs.mergeSort fun a b => (compare b a).isLE

/-- Runs that compare equal keep their order. -/
def sortOldestFirst (runs : List Run) : List Run :=
  runs.mergeSort fun a b => (compare a b).isLE

def toJson (r : Run) : Value :=
  .object [
    ("run_id", .string r.id),
    ("start_time", .string r.startTime),
    ("total_tests", Json.ofNat r.totalTests),
    ("passed_tests", Json.ofNat r.passedTests),
    ("failed_tests", Json.ofNat r.failedTests),
    ("environment", .object r.environment),
    ("total_runtime", Json.ofFloat r.totalRuntime),
    ("git_commit", .string r.commit),
    ("git_branch", .string r.branch),
    ("git_dirty", .string r.dirty),
    ("description", .string r.description),
    ("test_output_log", .string r.consoleLog),
    ("tests", .array (r.tests.map TestRecord.toJson))]

end Run

/-- The labels of all tests, sorted, each one once. -/
def collectLabels (runs : List Run) : List String :=
  let labels := runs.flatMap fun run => run.tests.flatMap TestRecord.labels
  (Keyed.ofList (labels.map fun label => (label, ()))).map Prod.fst

end TestHistory
