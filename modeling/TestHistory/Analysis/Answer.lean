import TestHistory.Analysis.Summary

/-!
# What the commands answer to programs
-/

namespace TestHistory

open Json (Value)

/-- A flaky test with its outcomes, newest first. -/
def flakyTestJson (row : Row) : Value :=
  .object [
    ("test_name", .string row.testName),
    ("flakiness_score", Json.ofFloat row.flakiness),
    ("flakiness_pattern", .string row.pattern.name),
    ("pattern_description", .string row.pattern.description),
    ("pass_count", Json.ofNat row.passCount),
    ("fail_count", Json.ofNat row.failCount),
    ("total_runs", Json.ofNat row.totalRuns),
    ("pass_rate", Json.ofFloat row.passRate),
    ("history", Json.ofStrings (row.outcomes.map Outcome.letter))]

def flakyJson (rows : List Row) : Value :=
  .array ((rows.filter Row.isFlaky).map flakyTestJson)

/-- Where the report was written, if it was. -/
def generatedJson (output : Option String) (summary : Summary) : Value :=
  .object [("output", Json.ofOption .string output), ("summary", summary.toJson)]

end TestHistory
