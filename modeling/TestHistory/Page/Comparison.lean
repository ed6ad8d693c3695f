import TestHistory.Page.Figure
import TestHistory.Page.Icon
import TestHistory.Run.Basic

/-!
# The comparison of two runs

Two runs to choose, the previous and the latest one at first, and the places that the script fills.
-/

namespace TestHistory.Page

def runChoice (selected : Nat) (run : Run) (index : Nat) : Html :=
  let mark : List Attribute := if index = selected then [⟨"selected", none⟩] else []
  element "option" (attrOf "value" [.figure (.ofNat index)] :: mark)
    [raw "Run ", text run.id, raw " - ", text run.date, raw " (",
      figure (.duration run.totalRuntime), raw ")"]

def runSelect (id : String) (selected : Nat) (runs : List Run) : Html :=
  element "select" [attr "id" id, attr "class" "filter-input", attr "onchange" "updateRunInfo()"] (
    lines 20 (runs.zipIdx.map fun (run, index) => runChoice selected run index) ++ [line 16])

def runInfo (title id : String) : Html :=
  classed "div" "run-info-card" [element "h4" [] [raw title], element "div" [attr "id" id] []]

/-- A figure that the script sets. -/
def counter (tooltip : List Attribute) (label id className start : String) : Html :=
  element "div" (attr "class" "card" :: tooltip) [
    classed "div" "label" [raw label],
    element "div" [attr "id" id, attr "class" className] [raw start]]

/-- A list that the script fills. -/
def changeList (icon : Html) (title id : String) : Html :=
  classed "div" "comparison-col"
    [element "h4" [] [icon, raw (" " ++ title)], element "div" [attr "id" id] []]

def comparisonFigures : List Html := [
  counter [] "Tests Compared" "testsComparedCount" "value" "0",
  counter [attr "title" "Passed in Run A but failed in Run B."]
    "New Failures" "newFailuresCount" "value rate-low" "0",
  counter [attr "title" "Failed in Run A but passed in Run B."]
    "Fixed Tests" "fixedTestsCount" "value rate-high" "0",
  counter [attr "title" "Flaky tests that failed again in Run B."]
    "Regressions" "regressionsCount" "value rate-medium" "0",
  counter [attr "title" "Total runtime of Run B minus Run A over tests present in both."]
    "Runtime Diff" "runtimeDiff" "value" "-"]

def comparison (runs : List Run) : Html :=
  element "div" [attr "id" "comparison", attr "class" "tab-content"] (
    lines 12 [
      classed "div" "filters" (
        lines 16 [
          classed "label" "subtle" [raw "Run A (base)"],
          runSelect "runASelect" 1 runs,
          classed "label" "subtle" [raw "Run B (head)"],
          runSelect "runBSelect" 0 runs,
          element "button" [attr "class" "btn", attr "onclick" "compareRuns()"] [raw "Compare"]] ++
        [line 12]),
      classed "div" "comparison-run-info"
        (lines 16 [runInfo "Run A" "runAInfo", runInfo "Run B" "runBInfo"] ++ [line 12]),
      element "div" [
          attr "id" "comparisonSummary", attr "class" "summary-grid",
          attr "style" "display: none; margin-top: 20px;"]
        (lines 16 comparisonFigures ++ [line 12]),
      classed "div" "comparison-grid" (
        lines 16 [
          changeList (Icon.error.draw 16 "#ef4444") "New Failures" "newFailuresList",
          changeList (Icon.info.draw 16 "#10b981") "Fixed Tests" "fixedTestsList",
          changeList (Icon.warning.draw 16 "#f59e0b") "Regressions" "regressionsList"] ++
        [line 12])] ++
    [line 8])

end TestHistory.Page
