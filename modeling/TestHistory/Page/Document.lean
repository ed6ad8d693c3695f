import TestHistory.Page.Assets
import TestHistory.Page.Comparison
import TestHistory.Page.Dashboard
import TestHistory.Page.Matrix

/-!
# The page

`document` is the report as one page: head, tabs with their contents, dialogs, the data of the
report for the script, and the script itself.
-/

namespace TestHistory.Page

open Json (Value)

structure Options where
  title : String
  chartJsUrl : String
  generatedAt : String

def tabButton (active : Bool) (id label : String) : Html :=
  element "button" [
      attr "class" (if active then "tab-btn active" else "tab-btn"), attr "data-tab" id,
      attr "onclick" ("switchTab('" ++ id ++ "')")]
    [raw label]

/-- Runs are compared only when there are two of them. -/
def hasComparison (report : Report) : Bool :=
  2 ≤ report.runs.length

def tabs (report : Report) : Html :=
  let comparison := if hasComparison report then [tabButton false "comparison" "Comparison"] else []
  classed "div" "tabs" (
    lines 12 ([tabButton true "dashboard" "Dashboard", tabButton false "matrix" "Test Matrix"] ++
      comparison) ++
    [line 8])

/-- A dialog that the script opens. -/
def modal (id title : String) : Html :=
  let close := "closeModal('" ++ id ++ "')"
  element "div" [
      attr "id" id, attr "class" "modal",
      attr "onclick" ("if (event.target === this) " ++ close)] [
    line 8,
    classed "div" "modal-content" (
      lines 12 [
        classed "div" "modal-header" (
          lines 16 [
            element "h2" [attr "id" (id ++ "Title")] [raw title],
            element "span" [attr "class" "close-btn", attr "onclick" close] [raw "&times;"]] ++
          [line 12]),
        element "div" [attr "class" "modal-body", attr "id" (id ++ "Body")] []] ++
      [line 8]),
    line 4]

/-- What the script knows of a run. -/
def runJson (run : Run) : Value :=
  .object [
    ("run_id", .string run.id),
    ("start_time", .string run.startTime),
    ("date", .string run.date),
    ("total_tests", Json.ofNat run.totalTests),
    ("passed_tests", Json.ofNat run.passedTests),
    ("failed_tests", Json.ofNat run.failedTests),
    ("total_runtime", Json.ofFloat run.totalRuntime),
    ("git_commit", .string run.commit),
    ("git_branch", .string run.branch),
    ("git_dirty", .bool (isDirty run.dirty)),
    ("description", .string run.description),
    ("environment", .object run.environment),
    ("test_output_log", .string run.consoleLog)]

/-- A global value of the script. -/
def dataLine (name : String) (value : Value) : List Html :=
  [line 8, raw ("window." ++ name ++ " = "), .fragment (.data value), raw ";"]

def dataScript (report : Report) : Html :=
  element "script" [] (
    dataLine "chartData" report.trend.toJson ++
    dataLine "pivotData" (.array (report.rows.map Row.toJson)) ++
    dataLine "runsData" (.array (report.runs.map runJson)) ++
    [line 4])

def head (options : Options) : Html :=
  element "head" [] (
    lines 4 [
      .void "meta" [attr "charset" "UTF-8"],
      .void "meta" [
        attr "name" "viewport", attr "content" "width=device-width, initial-scale=1.0"],
      element "title" [] [text options.title],
      element "script" [attrOf "src" [.text options.chartJsUrl]] [],
      element "style" [] [raw style]] ++
    [line 0])

def header (options : Options) : Html :=
  classed "div" "header" (
    lines 12 [
      element "div" [] (
        lines 16 [
          element "h1" [] [text options.title],
          classed "p" "subtle" [raw "Generated on ", text options.generatedAt]] ++
        [line 12]),
      element "button" [
          attr "id" "themeToggle", attr "class" "btn", attr "onclick" "toggleTheme()",
          attr "title" "Toggle theme"]
        [raw "Dark mode"]] ++
    [line 8])

def comparisonTab (report : Report) : List Html :=
  if hasComparison report then [line 8, comparison report.runs] else []

/-- What stands before the data of the script. -/
def content (report : Report) (options : Options) : List Html :=
  [line 4, classed "div" "container" (
      lines 8 [header options, tabs report] ++
      [line 8, line 8, dashboard report, line 8, line 8, matrix report, line 8] ++
      comparisonTab report ++ [line 4]),
    line 4, line 4, modal "testModal" "Test Details", line 4, modal "runModal" "Run Details"]

def body (report : Report) (options : Options) : Html :=
  element "body" [] (content report options ++
    [line 4, dataScript report, line 4, element "script" [] [raw script], line 0])

def document (report : Report) (options : Options) : List Html :=
  [raw "<!DOCTYPE html>", line 0,
    element "html" [attr "lang" "en"]
      [line 0, head options, line 0, body report options, line 0],
    line 0]

def render (report : Report) (options : Options) : String :=
  Html.render (document report options)

end TestHistory.Page
