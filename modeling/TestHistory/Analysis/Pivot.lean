import TestHistory.Analysis.Row

/-!
# The join of all runs by test name

`pivot runs` has one row for every test name that occurs in a run. Within a run the last record
of a name counts; leaf and containers come from the first run that has the name.
-/

namespace TestHistory

namespace Pivot

/-- The last record of a name. -/
def lastRecord (name : String) (tests : List TestRecord) : Option TestRecord :=
  tests.foldl (fun found t => if t.fullName = name then some t else found) none

def cell (name : String) (run : Run) : Cell :=
  ⟨run.id, lastRecord name run.tests⟩

/-- All test names, sorted, each one once. -/
def names (runs : List Run) : List String :=
  let all := runs.flatMap fun run => run.tests.map TestRecord.fullName
  (Keyed.ofList (all.map fun name => (name, ()))).map Prod.fst

def row (runs : List Run) (name : String) : Row :=
  let cells := runs.map (cell name)
  match cells.findSome? Cell.record with
  | some first => ⟨name, first.leafText, first.containers, cells⟩
  | none => ⟨name, name, [], cells⟩

end Pivot

/-- The rows of all tests, of equal rank in the order of their names. -/
def pivot (runs : List Run) : List Row :=
  Row.sort ((Pivot.names runs).map (Pivot.row runs))

end TestHistory
