import TestHistory.Analysis.Report
import TestHistory.Page.Figure
import TestHistory.Page.Icon

/-!
# The matrix of tests and runs

One column for every run and one row for every test. A cell with a result opens its details.
-/

namespace TestHistory.Page

def rateClass (passRate : Float) : String :=
  if 90.0 ≤ passRate then "rate-high"
  else if 50.0 ≤ passRate then "rate-medium"
  else "rate-low"

def runtimeClass (seconds : Float) : String :=
  if seconds < 10.0 then "runtime-fast"
  else if seconds < 30.0 then "runtime-medium"
  else "runtime-slow"

namespace Figure

theorem escape_rateClass (passRate : Float) :
    escape (Page.rateClass passRate) = Page.rateClass passRate := by
  unfold Page.rateClass
  repeat' split
  all_goals rfl

def rateClass (passRate : Float) : Figure :=
  ⟨Page.rateClass passRate, escape_rateClass passRate⟩

theorem escape_runtimeClass (seconds : Float) :
    escape (Page.runtimeClass seconds) = Page.runtimeClass seconds := by
  unfold Page.runtimeClass
  repeat' split
  all_goals rfl

def runtimeClass (seconds : Float) : Figure :=
  ⟨Page.runtimeClass seconds, escape_runtimeClass seconds⟩

end Figure

/-! ### Filters -/

def choice (value label : String) : Html :=
  element "option" [attr "value" value] [raw label]

def filterSelect (id : String) (choices : List Html) : Html :=
  element "select" [attr "id" id, attr "class" "filter-input", attr "onchange" "filterTable()"]
    (lines 20 choices ++ [line 16])

def labelChoice (label : String) : Html :=
  element "option" [attrOf "value" [.text label]] [text label]

def filters (labels : List String) : Html :=
  classed "div" "filters" (
    lines 16 [
      .void "input" [
        attr "type" "text", attr "id" "searchInput", attr "class" "filter-input",
        attr "placeholder" "Search tests...", attr "oninput" "filterTable()"],
      filterSelect "statusFilter" [
        choice "all" "All Statuses", choice "passed" "Passed", choice "failed" "Failed"],
      filterSelect "stabilityFilter" [
        choice "all" "All Stability", choice "flaky" "Flaky Only", choice "stable" "Stable Only",
        choice "always-failing" "Always Failing"],
      filterSelect "labelFilter" (choice "all" "All Labels" :: labels.map labelChoice),
      element "button" [attr "class" "btn", attr "onclick" "copyAllTestNames()"]
        [Icon.copy.draw 14 "currentColor", raw " Copy All Names"]] ++
    [line 12])

/-! ### The table -/

def runHeader (run : Run) (index : Nat) : Html :=
  element "th" [
      attr "class" "run-header",
      attrOf "onclick" [.markup "showRunDetails(", .figure (.ofNat index), .markup ")"]]
    [raw "Run ", text run.id, .void "br" [],
      classed "span" "meta"
        [text run.date, .void "br" [], figure (.duration run.totalRuntime)]]

def headerCells (runs : List Run) : List Html :=
  [element "th" [] [raw "Test Name"], classed "th" "stats-col" [raw "Stats"]] ++
    runs.zipIdx.map fun (run, index) => runHeader run index

def containerLevel (index : Nat) : Figure :=
  if index = 0 then ⟨" level-0", rfl⟩ else .blank

def container (name : String) (index : Nat) : List Html :=
  let level := Fragment.figure (containerLevel index)
  [classed "span" "breadcrumb-item"
      [element "span" [attrOf "class" [.markup "breadcrumb-container", level]] [text name]],
    classed "span" "breadcrumb-separator" [raw "›"]]

/-- The containers of a test from the outside in, and its leaf. -/
def breadcrumb (containers : List String) (leaf : String) : Html :=
  classed "div" "test-breadcrumb" (
    (containers.zipIdx.flatMap fun (name, index) => container name index) ++
    [classed "span" "breadcrumb-item" [classed "span" "breadcrumb-leaf" [text leaf]]])

def nameCell (row : Row) : Html :=
  classed "td" "test-name-cell" [
    line 32,
    classed "div" "test-name-wrapper" (
      lines 36 [
        breadcrumb row.containers row.leafText,
        element "button" [
            attr "class" "copy-test-name-btn", attr "onclick" "copyTestName(this)",
            attrOf "data-test-name" [.text row.breadcrumb], attr "title" "Copy test name"]
          [Icon.copy.draw 14 "currentColor", raw " Copy"]] ++
      [line 32]),
    line 28]

def statsCell (row : Row) : Html :=
  let pass := Fragment.figure (.ofNat row.passCount)
  let total := Fragment.figure (.ofNat row.totalRuns)
  classed "td" "stats-cell" (
    lines 32 [
      element "div" [
          attrOf "class" [.markup "pass-rate ", .figure (.rateClass row.passRate)],
          attrOf "title"
            [.markup "Pass rate: ", pass, .markup " passed out of ", total, .markup " total runs"]]
        [figure (.fixed 1 row.passRate), raw "%"],
      classed "div" "counts"
        [number row.passCount, raw "✓ ", number row.failCount, raw "✗ / ", number row.totalRuns],
      classed "div" "avg-time" [raw "avg: ", figure (.fixed 1 row.averageRuntime), raw "s"]] ++
    [line 28])

/-- A result, by the places of its row and its run. -/
def resultCell (row run : Nat) (record : TestRecord) : Html :=
  let state := record.state.name
  element "td" [
      attr "class" "result-cell",
      attrOf "onclick" [
        .markup "showTestDetails(", .figure (.ofNat row), .markup ", ", .figure (.ofNat run),
        .markup ")"]]
    [element "span" [attrOf "class" [.markup "badge ", .className state]] [text state],
      element "span" [attrOf "class" [.markup "runtime ", .figure (.runtimeClass record.runtime)]]
        [figure (.fixed 1 record.runtime), raw "s"]]

def absentCell : Html :=
  classed "td" "absent-cell" [raw "-"]

def runCell (row : Nat) (cell : Cell) (run : Nat) : Html :=
  match cell.record with
  | some record => resultCell row run record
  | none => absentCell

def rowCells (row : Row) (index : Nat) : List Html :=
  [nameCell row, statsCell row] ++ row.cells.zipIdx.map fun (cell, run) => runCell index cell run

def tableRow (row : Row) (index : Nat) : Html :=
  element "tr" [attrOf "data-row" [.figure (.ofNat index)]] (lines 28 (rowCells row index) ++ [line 24])

def resultsTable (report : Report) : Html :=
  element "table" [attr "id" "resultsTable"] [
    line 20,
    element "thead" [] [
      line 24,
      element "tr" [] (lines 28 (headerCells report.runs) ++ [line 24]),
      line 20],
    line 20,
    element "tbody" []
      (lines 24 (report.rows.zipIdx.map fun (row, index) => tableRow row index) ++ [line 20]),
    line 16]

def matrix (report : Report) : Html :=
  element "div" [attr "id" "matrix", attr "class" "tab-content"] (
    lines 12 [
      filters report.labels,
      classed "div" "table-wrapper" [line 16, resultsTable report, line 12]] ++
    [line 8])

end TestHistory.Page
