import TestHistory.Decimal.Reading
import TestHistory.Failure
import TestHistory.Files.Path
import TestHistory.Scan.Options
import TestHistory.Settings.Layer

/-!
# The configuration

`Config.ofLayer` gives every setting its type. A setting that is missing or blank has its default.
-/

namespace TestHistory

structure Config where
  /-- A relative path starts from the root of the results. -/
  output : Path
  title : String
  chartJsUrl : String
  scan : ScanOptions
  deriving DecidableEq

namespace Config

def default : Config where
  output := ⟨"test_results_report.html"⟩
  title := "E2E Test Results"
  chartJsUrl := "https://cdn.jsdelivr.net/npm/chart.js"
  scan := ScanOptions.default

/-- The trimmed value of a setting, unless it is blank. -/
def filled (layer : Layer) (key : String) : Option String :=
  ((layer.get? key).map Text.trim).filter (· ≠ "")

def textSetting (layer : Layer) (key default : String) : String :=
  (filled layer key).getD default

def numberSetting (layer : Layer) (key : String) (default : Nat) : Except Failure Nat :=
  match filled layer key with
  | none => .ok default
  | some text =>
    match Decimal.readNatural text.toList with
    | some n => .ok n
    | none => .error (.setting key ("expected a non-negative integer, got '" ++ text ++ "'"))

def ofLayer (layer : Layer) : Except Failure Config := do
  let consoleLogMaxLines ←
    numberSetting layer "console-log-max-lines" default.scan.consoleLogMaxLines
  let artifactLogTailLines ←
    numberSetting layer "artifact-log-tail-lines" default.scan.artifactLogTailLines
  let resourceMaxBytes ← numberSetting layer "resource-max-bytes" default.scan.resourceMaxBytes
  let resourceMaxFiles ← numberSetting layer "resource-max-files" default.scan.resourceMaxFiles
  return {
    output := ⟨textSetting layer "output" default.output.text⟩
    title := textSetting layer "title" default.title
    chartJsUrl := textSetting layer "chart-js-url" default.chartJsUrl
    scan := {
      runPrefix := textSetting layer "run-prefix" default.scan.runPrefix
      consoleLogMaxLines, artifactLogTailLines, resourceMaxBytes, resourceMaxFiles } }

/-- Where the report of a root is written. -/
def outputPath (c : Config) (root : Path) : Path :=
  root.join c.output.text

end Config

end TestHistory
