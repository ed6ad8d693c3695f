import TestHistory.Run.Basic

/-!
# The history of one test

A row holds one cell for every run: the record that the run has of the test, or nothing. One tally
of its records gives the figures of a row, and rows are ordered by them.
-/

namespace TestHistory

open Json (Value)

structure Cell where
  runId : String
  record : Option TestRecord

structure Row where
  testName : String
  leafText : String
  containers : List String
  cells : List Cell

/-- The shape of a history that has both passes and failures. -/
inductive Pattern where
  | stable
  | alternating
  deriving DecidableEq, Repr

namespace Pattern

def name : Pattern → String
  | stable => "stable"
  | alternating => "alternating"

def description : Pattern → String
  | stable => "Unknown pattern"
  | alternating => "Alternates between pass and fail"

/-- No two neighbours are equal. -/
def changes : List Outcome → Bool
  | a :: b :: rest => a ≠ b && changes (b :: rest)
  | _ => true

/-- Three outcomes or more of which no two neighbours are equal alternate. -/
def ofOutcomes (outcomes : List Outcome) : Pattern :=
  if 3 ≤ outcomes.length ∧ changes outcomes then alternating else stable

end Pattern

/-- Running totals over records. -/
structure Tally where
  totalRuns : Nat
  passCount : Nat
  failCount : Nat
  skipCount : Nat
  totalRuntime : Float
  minRuntime : Float
  maxRuntime : Float

namespace Tally

def infinity : Float := 1.0 / 0.0

/-- Before the first record. -/
def start : Tally where
  totalRuns := 0
  passCount := 0
  failCount := 0
  skipCount := 0
  totalRuntime := 0.0
  minRuntime := infinity
  maxRuntime := 0.0

/-- With one record more. -/
def add (tally : Tally) (t : TestRecord) : Tally :=
  let timed := { tally with
    totalRuns := tally.totalRuns + 1
    totalRuntime := tally.totalRuntime + t.runtime
    minRuntime := Binary64.least tally.minRuntime t.runtime
    maxRuntime := Binary64.greatest tally.maxRuntime t.runtime }
  match t.state.outcome with
  | .passed => { timed with passCount := tally.passCount + 1 }
  | .failed => { timed with failCount := tally.failCount + 1 }
  | .skipped => { timed with skipCount := tally.skipCount + 1 }

def ofRecords (records : List TestRecord) : Tally :=
  records.foldl add start

end Tally

/-- 100 at a pass rate of one half, 0 at none and at all. -/
def flakinessScore (passRate : Float) : Float :=
  100.0 - 2.0 * (passRate - 50.0).abs

namespace Row

/-- The records of the runs that have the test, newest first. -/
def records (r : Row) : List TestRecord :=
  r.cells.filterMap Cell.record

def outcomes (r : Row) : List Outcome :=
  r.records.map fun t => t.state.outcome

def runtimes (r : Row) : List Float :=
  r.records.map TestRecord.runtime

/-- The record of a run; of several cells with its id the first one counts. -/
def recordOf (r : Row) (runId : String) : Option TestRecord :=
  (r.cells.find? fun cell => cell.runId = runId).bind Cell.record

def tally (r : Row) : Tally :=
  .ofRecords r.records

def totalRuns (r : Row) : Nat :=
  r.tally.totalRuns

def passCount (r : Row) : Nat :=
  r.tally.passCount

def failCount (r : Row) : Nat :=
  r.tally.failCount

def skipCount (r : Row) : Nat :=
  r.tally.skipCount

def passRate (r : Row) : Float :=
  percentage r.passCount r.totalRuns

def totalRuntime (r : Row) : Float :=
  r.tally.totalRuntime

def averageRuntime (r : Row) : Float :=
  if r.totalRuns = 0 then 0.0 else r.totalRuntime / Binary64.ofNat r.totalRuns

def minRuntime (r : Row) : Float :=
  if r.totalRuns = 0 then 0.0 else r.tally.minRuntime

/-- Never below zero. -/
def maxRuntime (r : Row) : Float :=
  r.tally.maxRuntime

def isFlaky (r : Row) : Bool :=
  2 ≤ r.totalRuns && 0 < r.passCount && 0 < r.failCount

def flakiness (r : Row) : Float :=
  if r.isFlaky then flakinessScore r.passRate else 0.0

def pattern (r : Row) : Pattern :=
  if r.isFlaky then Pattern.ofOutcomes r.outcomes else .stable

/-- Failed in every run that has the test. -/
def isAlwaysFailing (r : Row) : Bool :=
  0 < r.totalRuns && r.failCount = r.totalRuns

/-- The containers from the outside in and the leaf. -/
def breadcrumb (r : Row) : String :=
  " › ".intercalate (r.containers ++ [r.leafText])

/-- More failures first, then the lower pass rate. -/
def before (a b : Row) : Bool :=
  ((Ord.compare b.failCount a.failCount).then
    (Ord.compare (Binary64.rank a.passRate) (Binary64.rank b.passRate))).isLE

/-- Rows that compare equal keep their order. -/
def sort (rows : List Row) : List Row :=
  rows.mergeSort before

def recordJson (t : TestRecord) : Value :=
  .object [
    ("state", t.state.toJson),
    ("runtime", Json.ofFloat t.runtime),
    ("failure_message", .string t.failureMessage),
    ("labels", Json.ofStrings t.labels),
    ("artifact_metadata", Json.ofOption Artifact.toJson t.artifact)]

def cellField (cell : Cell) : String × Value :=
  (cell.runId, Json.ofOption recordJson cell.record)

def toJson (r : Row) : Value :=
  .object [
    ("test_name", .string r.testName),
    ("leaf_text", .string r.leafText),
    ("container_hierarchy", Json.ofStrings r.containers),
    ("runs", .object (r.cells.map cellField)),
    ("total_runs", Json.ofNat r.totalRuns),
    ("pass_count", Json.ofNat r.passCount),
    ("fail_count", Json.ofNat r.failCount),
    ("skip_count", Json.ofNat r.skipCount),
    ("pass_rate", Json.ofFloat r.passRate),
    ("total_runtime", Json.ofFloat r.totalRuntime),
    ("avg_runtime", Json.ofFloat r.averageRuntime),
    ("min_runtime", Json.ofFloat r.minRuntime),
    ("max_runtime", Json.ofFloat r.maxRuntime),
    ("is_flaky", .bool r.isFlaky),
    ("flakiness_score", Json.ofFloat r.flakiness),
    ("flakiness_pattern", .string r.pattern.name)]

end Row

end TestHistory
