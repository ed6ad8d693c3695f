import TestHistory.Run.Basic

/-!
# The series of the charts

Pass rate and duration of every run, the oldest run first, in the shape that the chart library
takes.
-/

namespace TestHistory

open Json (Value)

/-- How one line of a chart is drawn. -/
structure LineStyle where
  label : String
  color : String
  fill : String

structure Chart where
  style : LineStyle
  labels : List String
  data : List Float

/-- The figures of one run. -/
structure RunPoint where
  runId : String
  timestamp : String
  total : Nat
  passed : Nat
  failed : Nat
  runtime : Float

structure Trend where
  passRate : Chart
  duration : Chart
  points : List RunPoint

namespace Chart

def toJson (c : Chart) : Value :=
  .object [
    ("labels", Json.ofStrings c.labels),
    ("datasets", .array [.object [
      ("label", .string c.style.label),
      ("data", .array (c.data.map Json.ofFloat)),
      ("borderColor", .string c.style.color),
      ("backgroundColor", .string c.style.fill),
      ("fill", .bool true)]])]

end Chart

namespace RunPoint

def ofRun (run : Run) : RunPoint where
  runId := run.id
  timestamp := run.startTime
  total := run.totalTests
  passed := run.passedTests
  failed := run.failedTests
  runtime := Binary64.roundTenth run.totalRuntime

def toJson (p : RunPoint) : Value :=
  .object [
    ("run_id", .string p.runId),
    ("timestamp", .string p.timestamp),
    ("total", Json.ofNat p.total),
    ("passed", Json.ofNat p.passed),
    ("failed", Json.ofNat p.failed),
    ("runtime", Json.ofFloat p.runtime)]

end RunPoint

namespace Trend

def passRateStyle : LineStyle :=
  ⟨"Pass Rate (%)", "#10b981", "rgba(16, 185, 129, 0.1)"⟩

def durationStyle : LineStyle :=
  ⟨"Total Duration (s)", "#3b82f6", "rgba(59, 130, 246, 0.1)"⟩

/-- The runs may stand in any order. -/
def ofRuns (runs : List Run) : Trend :=
  let runs := Run.sortOldestFirst runs
  let labels := runs.map fun run => "Run " ++ run.id
  { passRate := ⟨passRateStyle, labels, runs.map fun run => Binary64.roundTenth run.passRate⟩
    duration := ⟨durationStyle, labels, runs.map fun run => Binary64.roundTenth run.totalRuntime⟩
    points := runs.map RunPoint.ofRun }

def toJson (t : Trend) : Value :=
  .object [
    ("passRate", t.passRate.toJson),
    ("duration", t.duration.toJson),
    ("runs", .array (t.points.map RunPoint.toJson))]

end Trend

end TestHistory
