import TestHistory.Run.Basic
import TestHistory.Run.Report
import TestHistory.Scan.Artifacts

/-!
# The tests of a report

`extractTests` makes one record for every test name of the first suite. Of several specs with one
name the last one counts, at the place of the first.
-/

namespace TestHistory

/-- Where artifacts are looked up. -/
structure ArtifactSource where
  files : FileSystem
  index : ArtifactIndex
  root : Path
  options : ScanOptions

def Spec.toRecord (s : Spec) (artifact : Option Artifact) : TestRecord where
  fullName := s.fullName
  leafText := s.leafText
  state := s.state
  runtime := s.runtime
  failureMessage := s.failureText
  labels := s.labels
  containers := s.containers
  startTime := s.startTime.getD ""
  endTime := s.endTime.getD ""
  artifact

namespace TestRecord

/-- A record takes the place of one with its name, or comes last. -/
def place (new : TestRecord) : List TestRecord → List TestRecord
  | [] => [new]
  | t :: rest => if t.fullName = new.fullName then new :: rest else t :: place new rest

end TestRecord

def addSpec (source : ArtifactSource) (tests : List TestRecord) (spec : Spec) :
    Logged (List TestRecord) := do
  let artifact ← source.index.load source.files spec.fullName source.root source.options
  if tests.any fun t => t.fullName = spec.fullName then
    Logged.debug "Duplicate test name in run, keeping the later record"
  return (spec.toRecord artifact).place tests

/-- Specs without a text of their own set the suite up and are no tests. -/
def testSpecs : List Suite → List Spec
  | [] => []
  | suite :: _ => suite.specs.filter fun spec => spec.leafText ≠ ""

def extractTests (source : ArtifactSource) (suites : List Suite) : Logged (List TestRecord) :=
  (testSpecs suites).foldlM (addSpec source) []

end TestHistory
