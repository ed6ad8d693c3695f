import TestHistory.Analysis.Pivot
import TestHistory.Analysis.Summary
import TestHistory.Analysis.Trend

/-!
# Everything derived from a list of runs
-/

namespace TestHistory

/-- The runs stand newest first. -/
structure Report where
  runs : List Run
  rows : List Row
  labels : List String
  trend : Trend
  summary : Summary

namespace Report

def ofRuns (runs : List Run) : Report :=
  let rows := pivot runs
  { runs, rows
    labels := collectLabels runs
    trend := Trend.ofRuns runs
    summary := Summary.ofRuns runs rows }

end Report

end TestHistory
