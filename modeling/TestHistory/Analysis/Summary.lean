import TestHistory.Analysis.Row
import TestHistory.Decimal.Fixed
import TestHistory.Text.Utf8

/-!
# The figures at a glance

Counts over all rows, the figures of the latest run, and how its pass rate moved.
-/

namespace TestHistory

open Json (Value)

/-- The movement of the pass rate, in percentage points. -/
inductive PassRateTrend where
  | notEnoughData
  | stable
  | up (difference : Float)
  | down (difference : Float)

structure Summary where
  totalRuns : Nat
  totalTests : Nat
  flakyTests : Nat
  alwaysFailing : Nat
  averageRuntime : Float
  latestRunId : Option String
  latestPassRate : Float
  latestFailures : Nat
  latestRuntime : Float
  latestBranch : Option String
  latestCommit : Option String
  latestDirty : Bool
  trend : PassRateTrend

namespace PassRateTrend

/-- A smaller difference counts as none. -/
def threshold : Float := 0.1

/-- The latest run against the one before it; the runs stand newest first. -/
def ofRuns : List Run → PassRateTrend
  | latest :: previous :: _ =>
    let difference := latest.passRate - previous.passRate
    if latest.totalTests = 0 ∨ previous.totalTests = 0 then notEnoughData
    else if difference.abs < threshold then stable
    else if 0.0 < difference then up difference
    else down difference
  | _ => notEnoughData

def label : PassRateTrend → String
  | notEnoughData => "—"
  | stable => "→ Stable"
  | up difference => "↑ +" ++ Decimal.fixed 1 difference ++ "%"
  | down difference => "↓ " ++ Decimal.fixed 1 difference ++ "%"

def toJson : PassRateTrend → Value
  | notEnoughData => .object [("direction", .string "not_enough_data")]
  | stable => .object [("direction", .string "stable")]
  | up difference => .object [("direction", .string "up"), ("diff", Json.ofFloat difference)]
  | down difference => .object [("direction", .string "down"), ("diff", Json.ofFloat difference)]

end PassRateTrend

/-- Free text; blank, `false` in any case and `0` mean a clean tree. -/
def isDirty (text : String) : Bool :=
  let word := Text.trim text
  !(word = "" || word.toLower = "false" || word = "0")

namespace Summary

def averageOf (runs : List Run) : Float :=
  if runs.isEmpty then 0.0
  else Binary64.sum (-0.0) (runs.map Run.totalRuntime) / Binary64.ofNat runs.length

/-- A text that is not empty. -/
def filled (text : String) : Option String :=
  if text = "" then none else some text

def ofRuns (runs : List Run) (rows : List Row) : Summary :=
  let latest := runs.head?
  { totalRuns := runs.length
    totalTests := rows.length
    flakyTests := rows.countP Row.isFlaky
    alwaysFailing := rows.countP Row.isAlwaysFailing
    averageRuntime := averageOf runs
    latestRunId := latest.map Run.id
    latestPassRate := (latest.map Run.passRate).getD 0.0
    latestFailures := (latest.map Run.failedTests).getD 0
    latestRuntime := (latest.map Run.totalRuntime).getD 0.0
    latestBranch := latest.bind fun run => filled run.branch
    latestCommit := latest.bind fun run => filled run.commit
    latestDirty := latest.any fun run => isDirty run.dirty
    trend := PassRateTrend.ofRuns runs }

/-- The first seven bytes, unless they end inside a character. -/
def shorten (commit : String) : String :=
  ((Text.positionAt? commit 7).map Text.upTo).getD commit

def shortCommit (s : Summary) : Option String :=
  s.latestCommit.map shorten

def toJson (s : Summary) : Value :=
  .object [
    ("total_runs", Json.ofNat s.totalRuns),
    ("total_tests", Json.ofNat s.totalTests),
    ("flaky_tests", Json.ofNat s.flakyTests),
    ("always_failing", Json.ofNat s.alwaysFailing),
    ("avg_runtime", Json.ofFloat s.averageRuntime),
    ("latest_run_id", Json.ofOption .string s.latestRunId),
    ("latest_pass_rate", Json.ofFloat s.latestPassRate),
    ("latest_failures", Json.ofNat s.latestFailures),
    ("latest_runtime", Json.ofFloat s.latestRuntime),
    ("latest_git_branch", Json.ofOption .string s.latestBranch),
    ("latest_git_commit", Json.ofOption .string s.latestCommit),
    ("latest_git_dirty", .bool s.latestDirty),
    ("pass_rate_trend", s.trend.toJson)]

end Summary

end TestHistory
