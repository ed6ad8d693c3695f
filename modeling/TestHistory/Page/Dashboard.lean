import TestHistory.Analysis.Report
import TestHistory.Page.Figure
import TestHistory.Page.Icon

/-!
# The dashboard

Cards with the figures of the summary, the place of the charts, and a card for every flaky test.
-/

namespace TestHistory.Page

/-- A card with one figure. -/
def figureCard (label color tooltip : String) (value : Html) : Html :=
  element "div" [
      attr "class" "card", attr "style" ("border-left: 4px solid " ++ color ++ ";"),
      attrOf "title" [.text tooltip]] (
    lines 20 [
      classed "div" "label" [raw label],
      element "div" [attr "class" "value", attr "style" ("color: " ++ color ++ ";")] [value]] ++
    [line 16])

def trendClass : PassRateTrend → Figure
  | .up _ => ⟨"trend-up", rfl⟩
  | .down _ => ⟨"trend-down", rfl⟩
  | .notEnoughData | .stable => ⟨"trend-flat", rfl⟩

def trendLabel (trend : PassRateTrend) : Html :=
  element "span" [attrOf "class" [.figure (trendClass trend)]] [figure (.trend trend)]

def averageRuntime (report : Report) : Figure :=
  if report.runs.isEmpty then ⟨"N/A", rfl⟩ else .duration report.summary.averageRuntime

def figureCards (report : Report) : List Html :=
  let summary := report.summary
  [figureCard "Total Runs" "#3b82f6" "Number of run directories included in this report."
      (number summary.totalRuns),
    figureCard "Total Tests" "#06b6d4" "Distinct test names seen across all runs."
      (number summary.totalTests),
    figureCard "Flaky Tests" "#f59e0b"
      ("Tests that both passed and failed across runs. " ++
        "Often timing issues, races or environment dependencies.")
      (number summary.flakyTests),
    figureCard "Always Failing" "#ef4444" "Tests that failed in every run they appeared in."
      (number summary.alwaysFailing),
    figureCard "Avg Runtime" "#8b5cf6" "Average total runtime across all runs."
      (figure (averageRuntime report)),
    figureCard "Pass Rate Trend" "#10b981"
      "Pass rate change of the latest run against the previous one." (trendLabel summary.trend)]

/-- One figure of the latest run under its heading. -/
def latestFigure (label className : String) (value : List Html) : Html :=
  element "div" [] [classed "div" "subtle" [raw label], classed "div" className value]

def dirtyMark (summary : Summary) : List Html :=
  if summary.latestDirty then
    [element "span" [
      attr "class" "dirty-dot", attr "title" "Working directory has uncommitted changes"]
      [raw "●"]]
  else []

def commitCode (summary : Summary) : Html :=
  let commit := summary.latestCommit.getD "unknown"
  element "code" [
      attr "class" "commit", attrOf "data-commit" [.text commit],
      attr "onclick" "copyWithElementFeedback(this.dataset.commit, this)",
      attrOf "title" [.markup "Click to copy full commit hash: ", .text commit]]
    [Icon.copy.draw 12 "currentColor", raw " ", text (summary.shortCommit.getD "unknown")]

def latestCard (summary : Summary) : Html :=
  classed "div" "card latest-card" (
    lines 20 [
      classed "div" "label" [raw "Latest Run Summary"],
      classed "div" "latest-grid" (
        lines 24 [
          latestFigure "Pass Rate" "figure rate-high"
            [figure (.fixed 1 summary.latestPassRate), raw "%"],
          latestFigure "Failures" "figure rate-low" [number summary.latestFailures],
          latestFigure "Runtime" "figure" [figure (.duration summary.latestRuntime)]] ++
        [line 20]),
      classed "div" "git-line" (
        [line 24, element "code" [] [text (summary.latestBranch.getD "unknown")], line 24] ++
        dirtyMark summary ++ [line 24, commitCode summary, line 20])] ++
    [line 16])

def chartFrame (id : String) : Html :=
  classed "div" "chart-wrapper" [element "canvas" [attr "id" id] []]

def charts : Html :=
  classed "div" "charts-container"
    (lines 16 [chartFrame "passRateChart", chartFrame "durationChart"] ++ [line 12])

def patternName (pattern : Pattern) : Figure :=
  ⟨pattern.name, by cases pattern <;> rfl⟩

def patternDescription (pattern : Pattern) : Figure :=
  ⟨pattern.description, by cases pattern <;> rfl⟩

/-- A flaky test, by its place among the rows. -/
def flakyCard (index : Nat) (row : Row) : Html :=
  element "div" [
      attr "class" "card flaky-card",
      attrOf "onclick" [.markup "showRowDetails(", .figure (.ofNat index), .markup ")"]] (
    lines 24 [
      classed "div" "flaky-header" (
        lines 28 [
          element "span" [
              attr "class" "badge",
              attr "title" ("Stability score based on the pass/fail ratio. " ++
                "Lower means more consistent.")]
            [figure (.fixed 0 row.flakiness), raw "% flaky"],
          element "span" [
              attr "class" "badge failed",
              attrOf "title" [.markup "Pattern: ", .figure (patternDescription row.pattern)]]
            [figure (patternName row.pattern)]] ++
        [line 24]),
      classed "div" "flaky-name" [text row.testName],
      classed "div" "flaky-stats"
        [raw "Pass: ", number row.passCount, raw " | Fail: ", number row.failCount]] ++
    [line 20])

/-- The flaky rows with their places. -/
def flakyRows (rows : List Row) : List (Row × Nat) :=
  rows.zipIdx.filter fun entry => entry.1.isFlaky

def flakyCards (rows : List Row) : List Html :=
  match flakyRows rows with
  | [] => [line 20, element "p" [] [raw "No flaky tests detected."]]
  | flaky => lines 20 (flaky.map fun (row, index) => flakyCard index row)

def flakySection (rows : List Row) : Html :=
  classed "div" "flaky-section" (
    lines 16 [
      element "h3" [] [Icon.warning.draw 18 "#f59e0b", raw " Flaky Tests Detected"],
      classed "div" "flaky-grid" (flakyCards rows ++ [line 16])] ++
    [line 12])

def dashboard (report : Report) : Html :=
  element "div" [attr "id" "dashboard", attr "class" "tab-content active"] (
    lines 12 [
      classed "div" "summary-grid"
        (lines 16 (figureCards report ++ [latestCard report.summary]) ++ [line 12]),
      charts,
      flakySection report.rows] ++
    [line 8])

end TestHistory.Page
