import Mathlib.Data.List.Forall2
import Mathlib.Data.List.Induction
import TestHistory.Analysis.Pivot
import TestHistory.Proofs.Keyed

/-!
# The pivot is a join

Runs are joined by the full names of their tests. `IsJoin` states the join without reference to
how it is found, and `pivot_isJoin` shows that the rows of `pivot` are one.
-/

namespace TestHistory

/-- The run has a record of the test. -/
def Run.Records (run : Run) (name : String) : Prop :=
  ∃ t ∈ run.tests, t.fullName = name

/-- The last record of a test in a run. -/
def Run.LastRecord (run : Run) (name : String) (t : TestRecord) : Prop :=
  ∃ earlier later, run.tests = earlier ++ t :: later ∧ t.fullName = name ∧
    ∀ u ∈ later, u.fullName ≠ name

/-- The last record of the test has the state. -/
def Run.Ended (run : Run) (name : String) (state : TestState) : Prop :=
  ∃ t, run.LastRecord name t ∧ t.state = state

/-- The last record of a test in the first run that has one. -/
def FirstRecord (runs : List Run) (name : String) (t : TestRecord) : Prop :=
  ∃ newer run older, runs = newer ++ run :: older ∧ (∀ r ∈ newer, ¬ r.Records name) ∧
    run.LastRecord name t

/-- What the cell of a run holds in the row of a test. -/
structure CellOf (name : String) (run : Run) (cell : Cell) : Prop where
  runId : cell.runId = run.id
  present : cell.record.isSome = true ↔ run.Records name
  last : ∀ t, cell.record = some t → run.LastRecord name t

/-- The rows are the join of the runs by test name: a row for every name, a cell for every run. -/
structure IsJoin (runs : List Run) (rows : List Row) : Prop where
  nodup : (rows.map Row.testName).Nodup
  names : ∀ name, name ∈ rows.map Row.testName ↔ ∃ run ∈ runs, run.Records name
  cells : ∀ row ∈ rows, List.Forall₂ (CellOf row.testName) runs row.cells
  leaf : ∀ row ∈ rows, ∃ t, FirstRecord runs row.testName t ∧
    row.leafText = t.leafText ∧ row.containers = t.containers

namespace Pivot

/-! ### The last record -/

theorem lastRecord_concat (name : String) (tests : List TestRecord) (t : TestRecord) :
    lastRecord name (tests ++ [t]) = if t.fullName = name then some t else lastRecord name tests := by
  rw [lastRecord, List.foldl_append]
  rfl

theorem lastRecord_eq_find? (name : String) (tests : List TestRecord) :
    lastRecord name tests = tests.reverse.find? fun t => t.fullName = name := by
  induction tests using List.reverseRecOn with
  | nil => rfl
  | append_singleton tests t ih =>
    rw [lastRecord_concat, List.reverse_concat, List.find?_cons, ih]
    by_cases same : t.fullName = name
    · simp [same]
    · simp [same]

theorem lastRecord_eq_some_iff {run : Run} {name : String} {t : TestRecord} :
    lastRecord name run.tests = some t ↔ run.LastRecord name t := by
  rw [lastRecord_eq_find?, List.find?_eq_some_iff_append]
  constructor
  · rintro ⟨same, later, earlier, split, others⟩
    refine ⟨earlier.reverse, later.reverse, ?_, of_decide_eq_true same, ?_⟩
    · rw [← List.reverse_reverse run.tests, split]
      simp
    · intro u member
      simpa using others u (List.mem_reverse.mp member)
  · rintro ⟨earlier, later, split, same, others⟩
    refine ⟨decide_eq_true same, later.reverse, earlier.reverse, ?_, ?_⟩
    · rw [split]
      simp
    · intro u member
      simpa using others u (List.mem_reverse.mp member)

theorem lastRecord_isSome {run : Run} {name : String} :
    (lastRecord name run.tests).isSome = true ↔ run.Records name := by
  rw [lastRecord_eq_find?, List.find?_isSome]
  simp [Run.Records]

theorem lastRecord_eq_none {run : Run} {name : String} :
    lastRecord name run.tests = none ↔ ¬ run.Records name := by
  rw [← lastRecord_isSome, Option.not_isSome_iff_eq_none]

/-- Where names are distinct, the last record of a name is the only one. -/
theorem lastRecord_eq_some_of_nodup {tests : List TestRecord}
    (distinct : (tests.map TestRecord.fullName).Nodup) {name : String} {t : TestRecord} :
    lastRecord name tests = some t ↔ t ∈ tests ∧ t.fullName = name := by
  have reversed : (tests.reverse.map TestRecord.fullName).Nodup := by
    rw [List.map_reverse, List.nodup_reverse]
    exact distinct
  rw [lastRecord_eq_find?, Keyed.find?_eq_some_iff_mem reversed, List.mem_reverse]

/-! ### Rows -/

theorem mem_names {runs : List Run} {name : String} :
    name ∈ names runs ↔ ∃ run ∈ runs, run.Records name := by
  rw [names, Keyed.mem_keys_ofList, List.map_map]
  simp [Run.Records]

theorem sorted_names (runs : List Run) : (names runs).Pairwise (· < ·) :=
  Keyed.sorted_ofList _

theorem nodup_names (runs : List Run) : (names runs).Nodup :=
  (sorted_names runs).imp fun below => below.ne

theorem row_testName (runs : List Run) (name : String) : (row runs name).testName = name := by
  unfold row
  dsimp only
  split <;> rfl

theorem row_cells (runs : List Run) (name : String) :
    (row runs name).cells = runs.map (cell name) := by
  unfold row
  dsimp only
  split <;> rfl

theorem cell_cellOf (name : String) (run : Run) : CellOf name run (cell name run) where
  runId := rfl
  present := lastRecord_isSome
  last _ found := lastRecord_eq_some_iff.mp found

theorem firstRecord_iff {runs : List Run} {name : String} {t : TestRecord} :
    (runs.map (cell name)).findSome? Cell.record = some t ↔ FirstRecord runs name t := by
  rw [List.findSome?_map, List.findSome?_eq_some_iff]
  constructor
  · rintro ⟨newer, run, older, split, found, others⟩
    exact ⟨newer, run, older, split, fun r member => lastRecord_eq_none.mp (others r member),
      lastRecord_eq_some_iff.mp found⟩
  · rintro ⟨newer, run, older, split, others, found⟩
    exact ⟨newer, run, older, split, lastRecord_eq_some_iff.mpr found,
      fun r member => lastRecord_eq_none.mpr (others r member)⟩

theorem exists_firstRecord {runs : List Run} {name : String} (h : name ∈ names runs) :
    ∃ t, (runs.map (cell name)).findSome? Cell.record = some t := by
  obtain ⟨run, member, records⟩ := mem_names.mp h
  obtain ⟨t, found⟩ := Option.isSome_iff_exists.mp (lastRecord_isSome.mpr records)
  apply Option.isSome_iff_exists.mp
  rw [List.findSome?_isSome_iff]
  exact ⟨cell name run, List.mem_map_of_mem member, by rw [cell, found]; rfl⟩

theorem row_leaf {runs : List Run} {name : String} (h : name ∈ names runs) :
    ∃ t, FirstRecord runs name t ∧ (row runs name).leafText = t.leafText ∧
      (row runs name).containers = t.containers := by
  obtain ⟨t, found⟩ := exists_firstRecord h
  refine ⟨t, firstRecord_iff.mp found, ?_, ?_⟩
  · rw [row, found]
  · rw [row, found]

end Pivot

/-! ### Runs with a record -/

theorem Run.LastRecord.records {run : Run} {name : String} {t : TestRecord}
    (h : run.LastRecord name t) : run.Records name := by
  rw [← Pivot.lastRecord_isSome, Pivot.lastRecord_eq_some_iff.mpr h]
  rfl

theorem Run.Records.exists_last {run : Run} {name : String} (h : run.Records name) :
    ∃ t, run.LastRecord name t := by
  obtain ⟨t, found⟩ := Option.isSome_iff_exists.mp (Pivot.lastRecord_isSome.mpr h)
  exact ⟨t, Pivot.lastRecord_eq_some_iff.mp found⟩

/-! ### All rows -/

theorem pivot_perm (runs : List Run) :
    (pivot runs).Perm ((Pivot.names runs).map (Pivot.row runs)) :=
  List.mergeSort_perm _ _

theorem mem_pivot {runs : List Run} {row : Row} :
    row ∈ pivot runs ↔ ∃ name ∈ Pivot.names runs, Pivot.row runs name = row := by
  rw [(pivot_perm runs).mem_iff, List.mem_map]

theorem testNames_perm (runs : List Run) :
    ((pivot runs).map Row.testName).Perm (Pivot.names runs) := by
  have perm := (pivot_perm runs).map Row.testName
  have kept : Row.testName ∘ Pivot.row runs = id := funext (Pivot.row_testName runs)
  rwa [List.map_map, kept, List.map_id] at perm

theorem nodup_testNames (runs : List Run) : ((pivot runs).map Row.testName).Nodup :=
  (testNames_perm runs).nodup_iff.mpr (Pivot.nodup_names runs)

theorem mem_testNames {runs : List Run} {name : String} :
    name ∈ (pivot runs).map Row.testName ↔ ∃ run ∈ runs, run.Records name := by
  rw [(testNames_perm runs).mem_iff, Pivot.mem_names]

theorem pivot_isJoin (runs : List Run) : IsJoin runs (pivot runs) where
  nodup := nodup_testNames runs
  names _ := mem_testNames
  cells row member := by
    obtain ⟨name, -, rfl⟩ := mem_pivot.mp member
    rw [Pivot.row_testName, Pivot.row_cells, List.forall₂_map_right_iff, List.forall₂_same]
    exact fun run _ => Pivot.cell_cellOf name run
  leaf row member := by
    obtain ⟨name, present, rfl⟩ := mem_pivot.mp member
    rw [Pivot.row_testName]
    exact Pivot.row_leaf present

end TestHistory
