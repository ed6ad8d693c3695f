import TestHistory.Json.Value
import TestHistory.Text.Distance

/-!
# What can go wrong

Each cause has a message, a code with an exit code, and perhaps a hint and data for the reader.
An id that names no run is answered with the ids most like it.
-/

namespace TestHistory

open Json (Value)

inductive Failure where
  | runNotFound (id : String) (available : List String)
  | sameRun (id : String)
  | notEnoughRuns (found : Nat)
  | config (message : String)
  | writeReport (path cause : String)
  | io (cause : String)
  | json (cause : String)
  | yaml (cause : String)
  | other (cause : String)
  deriving DecidableEq, Repr

inductive FailureCode where
  | runNotFound
  | sameRun
  | notEnoughRuns
  | configError
  | writeFailed
  | ioError
  | jsonError
  | yamlError
  | internalError
  deriving DecidableEq, Repr

namespace FailureCode

def name : FailureCode → String
  | runNotFound => "RunNotFound"
  | sameRun => "SameRun"
  | notEnoughRuns => "NotEnoughRuns"
  | configError => "ConfigError"
  | writeFailed => "WriteFailed"
  | ioError => "IoError"
  | jsonError => "JsonError"
  | yamlError => "YamlError"
  | internalError => "InternalError"

def text : FailureCode → String
  | runNotFound => "RUN_NOT_FOUND"
  | sameRun => "SAME_RUN"
  | notEnoughRuns => "NOT_ENOUGH_RUNS"
  | configError => "CONFIG_ERROR"
  | writeFailed => "WRITE_FAILED"
  | ioError => "IO_ERROR"
  | jsonError => "JSON_ERROR"
  | yamlError => "YAML_ERROR"
  | internalError => "INTERNAL_ERROR"

/-- 2 for a wrong choice of runs, 7 for the configuration, 8 for files, 1 for the rest. -/
def exitCode : FailureCode → Nat
  | runNotFound | sameRun | notEnoughRuns => 2
  | configError => 7
  | writeFailed | ioError | jsonError | yamlError => 8
  | internalError => 1

end FailureCode

/-- Distance first, then the order of the ids. -/
def closer (a b : Nat × String) : Bool :=
  ((Ord.compare a.1 b.1).then (Ord.compare a.2 b.2)).isLE

/-- The existing ids within three edits of the searched one, the closest first. -/
def similarIds (searched : String) (existing : List String) (most : Nat) : List String :=
  let near := (existing.map fun id => (Text.editDistance searched id, id)).filter (·.1 ≤ 3)
  ((near.mergeSort closer).take most).map Prod.snd

def maxSuggestions : Nat := 3

namespace Failure

/-- A setting with a value that it cannot have. -/
def setting (key reason : String) : Failure :=
  .config (key ++ ": " ++ reason)

def message : Failure → String
  | runNotFound id _ => "Run not found: " ++ id
  | sameRun id => "Cannot compare run '" ++ id ++ "' with itself"
  | notEnoughRuns found => s!"Comparison needs at least 2 runs, found {found}"
  | config message => "Configuration error: " ++ message
  | writeReport path cause => "Failed to write report to '" ++ path ++ "': " ++ cause
  | io cause => "I/O error: " ++ cause
  | json cause => "JSON error: " ++ cause
  | yaml cause => "YAML error: " ++ cause
  | other cause => cause

def code : Failure → FailureCode
  | runNotFound .. => .runNotFound
  | sameRun _ => .sameRun
  | notEnoughRuns _ => .notEnoughRuns
  | config _ => .configError
  | writeReport .. => .writeFailed
  | io _ => .ioError
  | json _ => .jsonError
  | yaml _ => .yamlError
  | other _ => .internalError

/-- The user can mend it without changing the program. -/
def isRecoverable : Failure → Bool
  | runNotFound .. | sameRun _ | notEnoughRuns _ | config _ => true
  | _ => false

def suggestion : Failure → Option String
  | sameRun _ => some "Pick two different runs with --base and --head"
  | notEnoughRuns _ => some "Collect at least one more test run"
  | config _ => some "Check .e2e-report.yaml and E2E_REPORT_* variables"
  | _ => none

/-- The ids most like the searched one, or else all of them. -/
def missingRunHint (id : String) (available : List String) : Option String :=
  match similarIds id available maxSuggestions with
  | [] =>
    if available.isEmpty then none
    else some ("Available runs: " ++ ", ".intercalate available)
  | [only] => some ("Did you mean '" ++ only ++ "'?")
  | several => some ("Did you mean one of: " ++ ", ".intercalate several ++ "?")

def hint : Failure → Option String
  | runNotFound id available => missingRunHint id available
  | failure => failure.suggestion

/-- Data for the reader, keys sorted. -/
def context : Failure → Option Value
  | runNotFound id available => some (.object [
      ("available", Json.ofStrings available),
      ("run_id", .string id),
      ("similar_ids", Json.ofStrings (similarIds id available maxSuggestions))])
  | sameRun id => some (.object [("run_id", .string id)])
  | notEnoughRuns found => some (.object [("found", Json.ofNat found)])
  | writeReport path _ => some (.object [("path", .string path)])
  | _ => none

/-- The record of a failure; absent parts are left out. -/
def recordJson (f : Failure) : Value :=
  .object (
    [("code", .string f.code.name), ("message", .string f.message)] ++
    (f.hint.map fun hint => ("hint", Value.string hint)).toList ++
    (f.context.map fun context => ("context", context)).toList)

/-- What a program reads on the error output. -/
def toJson (f : Failure) : Value :=
  .object [("error", .object [
    ("code", .string f.code.text),
    ("context", f.context.getD .null),
    ("hint", Json.ofOption .string f.hint),
    ("message", .string f.message)])]

/-- A label that stands out when colored; the number is the terminal's color. -/
def label (color : Bool) (number text : String) : String :=
  if color then "\x1b[" ++ number ++ "m" ++ text ++ "\x1b[0m " else text ++ " "

/-- What a person reads on the error output. -/
def humanText (color : Bool) (f : Failure) : String :=
  label color "31" "Error:" ++ f.message ++
    match f.hint with
    | some hint => "\n" ++ label color "33" "Hint:" ++ hint
    | none => ""

end Failure

end TestHistory
