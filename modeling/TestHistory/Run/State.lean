import TestHistory.Json.Decode

/-!
# The state of a test

A state other than passed and failed keeps its own name. For counting, a test has one of three
outcomes.
-/

namespace TestHistory

inductive TestState where
  | passed
  | failed
  | other (name : String)
  | unknown
  deriving DecidableEq, Repr

inductive Outcome where
  | passed
  | failed
  | skipped
  deriving DecidableEq, Repr

def Outcome.letter : Outcome → String
  | passed => "P"
  | failed => "F"
  | skipped => "S"

namespace TestState

def name : TestState → String
  | passed => "passed"
  | failed => "failed"
  | other name => name
  | unknown => "unknown"

def ofName (name : String) : TestState :=
  if name = "passed" then passed
  else if name = "failed" then failed
  else if name = "" ∨ name = "unknown" then unknown
  else other name

def isPassed (s : TestState) : Bool :=
  s = passed

def isFailed (s : TestState) : Bool :=
  s = failed

def outcome : TestState → Outcome
  | passed => .passed
  | failed => .failed
  | _ => .skipped

def decode : Json.Decoder TestState :=
  fun tree => (Json.Decode.string tree).map ofName

def toJson (s : TestState) : Json.Value :=
  .string s.name

end TestState

end TestHistory
