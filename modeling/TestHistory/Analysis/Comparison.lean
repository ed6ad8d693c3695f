import TestHistory.Analysis.Row
import TestHistory.Failure

/-!
# What changed between two runs

Only tests that both runs have a record of take part. `resolvePair` chooses the two runs.
-/

namespace TestHistory

open Json (Value)

/-- A test with its records in the base run and in the head run. -/
structure ComparedTest where
  row : Row
  base : TestRecord
  head : TestRecord

structure Comparison where
  baseId : String
  headId : String
  newFailures : List ComparedTest
  fixed : List ComparedTest
  regressions : List ComparedTest
  testsCompared : Nat
  baseRuntime : Float
  headRuntime : Float

namespace ComparedTest

def ofRow (baseId headId : String) (row : Row) : Option ComparedTest :=
  match row.recordOf baseId, row.recordOf headId with
  | some base, some head => some ⟨row, base, head⟩
  | _, _ => none

def isNewFailure (t : ComparedTest) : Bool :=
  t.base.state.isPassed && t.head.state.isFailed

def isFixed (t : ComparedTest) : Bool :=
  t.base.state.isFailed && t.head.state.isPassed

/-- A flaky test that failed in the head run and more than once in all. -/
def isRegression (t : ComparedTest) : Bool :=
  t.row.isFlaky && t.head.state.isFailed && 1 < t.row.failCount

def toJson (t : ComparedTest) : Value :=
  .object [
    ("test_name", .string t.row.testName),
    ("state_a", t.base.state.toJson),
    ("state_b", t.head.state.toJson),
    ("runtime_a", Json.ofFloat t.base.runtime),
    ("runtime_b", Json.ofFloat t.head.runtime),
    ("failure_message", .string t.head.failureMessage),
    ("fail_count", Json.ofNat t.row.failCount),
    ("total_runs", Json.ofNat t.row.totalRuns),
    ("flakiness_score", Json.ofFloat t.row.flakiness)]

end ComparedTest

namespace Comparison

def ofRows (rows : List Row) (baseId headId : String) : Comparison :=
  let tests := rows.filterMap (ComparedTest.ofRow baseId headId)
  { baseId, headId
    newFailures := tests.filter ComparedTest.isNewFailure
    fixed := tests.filter ComparedTest.isFixed
    regressions := tests.filter ComparedTest.isRegression
    testsCompared := tests.length
    baseRuntime := Binary64.sum 0.0 (tests.map fun t => t.base.runtime)
    headRuntime := Binary64.sum 0.0 (tests.map fun t => t.head.runtime) }

def runtimeDifference (c : Comparison) : Float :=
  c.headRuntime - c.baseRuntime

/-- The difference in percent of the base run. -/
def runtimePercent (c : Comparison) : Float :=
  if 0.0 < c.baseRuntime then c.runtimeDifference / c.baseRuntime * 100.0 else 0.0

def toJson (c : Comparison) : Value :=
  .object [
    ("run_a", .string c.baseId),
    ("run_b", .string c.headId),
    ("new_failures", .array (c.newFailures.map ComparedTest.toJson)),
    ("fixed", .array (c.fixed.map ComparedTest.toJson)),
    ("regressions", .array (c.regressions.map ComparedTest.toJson)),
    ("tests_compared", Json.ofNat c.testsCompared),
    ("runtime_a", Json.ofFloat c.baseRuntime),
    ("runtime_b", Json.ofFloat c.headRuntime),
    ("runtime_diff", Json.ofFloat c.runtimeDifference),
    ("runtime_diff_percent", Json.ofFloat c.runtimePercent)]

end Comparison

/-- The first run with an id. -/
def findRun (runs : List Run) (id : String) : Except Failure Run :=
  match runs.find? fun run => run.id = id with
  | some run => .ok run
  | none => .error (.runNotFound id (runs.map Run.id))

/-- The run of an id that was asked for, or else a default. -/
def chooseRun (runs : List Run) (default : Run) : Option String → Except Failure Run
  | some id => findRun runs id
  | none => .ok default

/-- The base and the head of a comparison, by default the previous and the latest of the runs,
which stand newest first. -/
def resolvePair (runs : List Run) (baseId headId : Option String) : Except Failure (Run × Run) :=
  match runs with
  | latest :: previous :: _ => do
    let base ← chooseRun runs previous baseId
    let head ← chooseRun runs latest headId
    if base.id = head.id then .error (.sameRun base.id) else .ok (base, head)
  | _ => .error (.notEnoughRuns runs.length)

end TestHistory
