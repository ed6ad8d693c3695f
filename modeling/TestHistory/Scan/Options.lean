/-!
# Limits of reading
-/

namespace TestHistory

structure ScanOptions where
  /-- What the name of a run directory begins with. -/
  runPrefix : String
  consoleLogMaxLines : Nat
  artifactLogTailLines : Nat
  resourceMaxBytes : Nat
  resourceMaxFiles : Nat
  deriving DecidableEq, Repr

def ScanOptions.default : ScanOptions where
  runPrefix := "run-"
  consoleLogMaxLines := 10000
  artifactLogTailLines := 500
  resourceMaxBytes := 51200
  resourceMaxFiles := 10

end TestHistory
