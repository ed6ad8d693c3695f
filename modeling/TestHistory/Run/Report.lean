import TestHistory.Run.State

/-!
# The files that describe a run

`Metadata` is the record of the run itself. `Suite` is one entry of its test report, a list of
`Spec`s, each the record of one test as the test framework wrote it.
-/

namespace TestHistory

open Json (Value Decoder Tree)
open Json.Decode (record optional orNull nullable list string natural)

structure Metadata where
  runId : Option String
  startTime : Option String
  totalTests : Option Nat
  passedTests : Option Nat
  failedTests : Option Nat
  environment : List (String × Value)
  commit : String
  branch : String
  dirty : String
  description : String

structure Spec where
  leafText : String
  containers : List String
  containerLabels : List (Option (List String))
  leafLabels : List String
  state : TestState
  nanoseconds : Float
  failureMessage : Option String
  /-- The message of a nested failure record. -/
  nestedMessage : Option String
  startTime : Option String
  endTime : Option String

structure Suite where
  specs : List Spec

namespace Metadata

def fieldNames : List String :=
  ["run_id", "start_time", "total_tests", "passed_tests", "failed_tests", "environment",
    "git_commit", "git_branch", "git_dirty", "description"]

/-- The text of an identifier: of a string its content, of any other value its JSON. -/
def identifierText : Value → Option String
  | .null => none
  | .string s => some s
  | v => some v.compact

/-- Levels that are left inside a field, and inside an entry of a field. -/
def fieldDepth : Nat := Json.maxDepth - 1
def entryDepth : Nat := Json.maxDepth - 2

def text (fields : Json.Decode.Fields) (name : String) : Option String :=
  optional fields name "" (orNull "" string)

def decode : Decoder Metadata := fun tree => do
  let fields ← record fieldNames tree
  return {
    runId := ← optional fields "run_id" none fun tree =>
      (Json.Decode.value fieldDepth tree).map identifierText
    startTime := ← optional fields "start_time" none (nullable string)
    totalTests := ← optional fields "total_tests" none (nullable natural)
    passedTests := ← optional fields "passed_tests" none (nullable natural)
    failedTests := ← optional fields "failed_tests" none (nullable natural)
    environment := ← optional fields "environment" []
      (orNull [] (Json.Decode.entries (Json.Decode.value entryDepth)))
    commit := ← text fields "git_commit"
    branch := ← text fields "git_branch"
    dirty := ← text fields "git_dirty"
    description := ← text fields "description" }

end Metadata

namespace Spec

def decodeFailure : Decoder String := fun tree => do
  let fields ← record ["Message"] tree
  optional fields "Message" "" string

def fieldNames : List String :=
  ["LeafNodeText", "ContainerHierarchyTexts", "ContainerHierarchyLabels", "LeafNodeLabels",
    "State", "RunTime", "FailureMessage", "Failure", "StartTime", "EndTime"]

def decode : Decoder Spec := fun tree => do
  let fields ← record fieldNames tree
  return {
    leafText := ← optional fields "LeafNodeText" "" string
    containers := ← optional fields "ContainerHierarchyTexts" [] (orNull [] (list string))
    containerLabels :=
      ← optional fields "ContainerHierarchyLabels" [] (orNull [] (list (nullable (list string))))
    leafLabels := ← optional fields "LeafNodeLabels" [] (orNull [] (list string))
    state := ← optional fields "State" .unknown TestState.decode
    nanoseconds := ← optional fields "RunTime" 0.0 Json.Decode.float
    failureMessage := ← optional fields "FailureMessage" none (nullable string)
    nestedMessage := ← optional fields "Failure" none (nullable decodeFailure)
    startTime := ← optional fields "StartTime" none (nullable string)
    endTime := ← optional fields "EndTime" none (nullable string) }

/-- The containers from the outside in and the leaf, joined by single spaces. -/
def fullName (s : Spec) : String :=
  " ".intercalate (s.containers ++ [s.leafText])

/-- The labels from the outside in. -/
def labels (s : Spec) : List String :=
  s.containerLabels.flatMap (·.getD []) ++ s.leafLabels

/-- In seconds. -/
def runtime (s : Spec) : Float :=
  s.nanoseconds / 1e9

/-- The message of the test, or else of its nested failure record. -/
def failureText (s : Spec) : String :=
  match s.failureMessage.filter (· ≠ "") with
  | some message => message
  | none => s.nestedMessage.getD ""

end Spec

namespace Suite

def decode : Decoder Suite := fun tree => do
  let fields ← record ["SpecReports"] tree
  return ⟨← optional fields "SpecReports" [] (orNull [] (list Spec.decode))⟩

/-- The suites of a report; anything but a list of them has no shape. -/
def decodeAll (report : Value) : Option (List Suite) :=
  list decode (Tree.ofValue report)

end Suite

end TestHistory
