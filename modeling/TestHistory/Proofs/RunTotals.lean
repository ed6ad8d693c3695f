import TestHistory.Proofs.RowFigures
import TestHistory.Proofs.RunReading

/-!
# Totals and columns

The totals that the metadata of a run leaves open are counted over its tests. The rows of a pivot
give the same counts in the column of the run (`totals_countColumn`): its tests have distinct
names, and each of them has one row.
-/

namespace TestHistory

/-- The record that a row holds of the run at a position. -/
def Row.recordAt (row : Row) (position : Nat) : Option TestRecord :=
  (row.cells[position]?).bind Cell.record

def Row.outcomeAt (row : Row) (position : Nat) : Option Outcome :=
  (row.recordAt position).map fun t => t.state.outcome

/-- The totals that the metadata leaves open are counts over the column of the run. -/
structure Run.CountsColumn (run : Run) (metadata : Metadata) (rows : List Row) (position : Nat) :
    Prop where
  total : metadata.totalTests = none →
    run.totalTests = rows.countP fun row => (row.recordAt position).isSome
  passed : metadata.passedTests = none →
    run.passedTests = rows.countP fun row => row.outcomeAt position = some .passed
  failed : metadata.failedTests = none →
    run.failedTests = rows.countP fun row => row.outcomeAt position = some .failed

namespace Pivot

theorem recordAt_row {runs : List Run} {position : Nat} {run : Run}
    (here : runs[position]? = some run) (name : String) :
    (row runs name).recordAt position = lastRecord name run.tests := by
  rw [Row.recordAt, row_cells, List.getElem?_map, here]
  rfl

/-- Each test of a run with distinct names has one row, which holds its record. -/
theorem countP_recordAt {runs : List Run} {position : Nat} {run : Run}
    (here : runs[position]? = some run) (distinct : (run.tests.map TestRecord.fullName).Nodup)
    (p : TestRecord → Bool) :
    (pivot runs).countP (fun row => (row.recordAt position).any p) = run.tests.countP p := by
  have counted : (pivot runs).countP (fun row => (row.recordAt position).any p) =
      (names runs).countP fun name => (lastRecord name run.tests).any p := by
    rw [(pivot_perm runs).countP_eq, List.countP_map]
    refine List.countP_congr fun name _ => ?_
    rw [Function.comp_apply, recordAt_row here]
  have named : ((names runs).filter fun name => (lastRecord name run.tests).any p).Perm
      ((run.tests.filter p).map TestRecord.fullName) := by
    have once : ((run.tests.filter p).map TestRecord.fullName).Nodup :=
      distinct.sublist (List.filter_sublist.map _)
    rw [List.perm_ext_iff_of_nodup ((nodup_names runs).filter _) once]
    intro name
    rw [List.mem_filter, List.mem_map]
    constructor
    · rintro ⟨-, some⟩
      obtain ⟨t, found, holds⟩ := (Option.any_eq_true ..).mp some
      obtain ⟨member, named⟩ := (lastRecord_eq_some_of_nodup distinct).mp found
      exact ⟨t, List.mem_filter.mpr ⟨member, holds⟩, named⟩
    · rintro ⟨t, kept, rfl⟩
      obtain ⟨member, holds⟩ := List.mem_filter.mp kept
      have records : run.Records t.fullName := ⟨t, member, rfl⟩
      refine ⟨mem_names.mpr ⟨run, List.mem_of_getElem? here, records⟩, ?_⟩
      rw [(lastRecord_eq_some_of_nodup distinct).mpr ⟨member, rfl⟩]
      exact holds
  rw [counted, List.countP_eq_length_filter, List.countP_eq_length_filter, named.length_eq,
    List.length_map]

end Pivot

/-- The totals of a run that was read, in terms of its tests. -/
theorem totals_of_read {fs : FileSystem} {dir root : Path} {options : ScanOptions}
    {metadata : Metadata} {run : Run} (read : (readRun fs dir root options).value = .ok run)
    (parsed : readMetadata fs dir = .ok metadata) :
    run.totalTests = metadata.totalTests.getD run.tests.length ∧
      run.passedTests = metadata.passedTests.getD (run.tests.countP fun t => t.state.isPassed) ∧
      run.failedTests = metadata.failedTests.getD (run.tests.countP fun t => t.state.isFailed) := by
  obtain ⟨metadata', report, parsed', -, rfl⟩ := readRun_eq_ok_iff.mp read
  obtain rfl := Except.ok.inj (parsed.symm.trans parsed')
  exact ⟨rfl, rfl, rfl⟩

theorem Row.outcomeAt_eq_some {row : Row} {position : Nat} {outcome : Outcome} :
    row.outcomeAt position = some outcome ↔
      (row.recordAt position).any (fun t => t.state.outcome = outcome) = true := by
  rw [outcomeAt, Option.map_eq_some_iff, Option.any_eq_true]
  simp

/-- Where the metadata leaves totals open, they are the counts over the column of the run. -/
theorem totals_countColumn {fs : FileSystem} {dir root : Path} {options : ScanOptions}
    {metadata : Metadata} {runs : List Run} {position : Nat} {run : Run}
    (here : runs[position]? = some run)
    (read : (readRun fs dir root options).value = .ok run)
    (parsed : readMetadata fs dir = .ok metadata) :
    run.CountsColumn metadata (pivot runs) position := by
  obtain ⟨total, passed, failed⟩ := totals_of_read read parsed
  have column := Pivot.countP_recordAt here (nodup_tests_of_read read)
  have ended (outcome : Outcome) :
      (pivot runs).countP (fun row => row.outcomeAt position = some outcome) =
        run.tests.countP fun t => t.state.outcome = outcome := by
    rw [← column]
    refine List.countP_congr fun row _ => ?_
    rw [decide_eq_true_eq, Row.outcomeAt_eq_some]
  refine ⟨fun unstated => ?_, fun unstated => ?_, fun unstated => ?_⟩
  · have present : (pivot runs).countP (fun row => (row.recordAt position).isSome) =
        (pivot runs).countP fun row => (row.recordAt position).any fun _ => true := by
      refine List.countP_congr fun row _ => ?_
      cases row.recordAt position <;> simp
    rw [total, unstated, Option.getD_none, present, column, List.countP_true]
  · rw [passed, unstated, Option.getD_none, ended]
    simp only [TestState.outcome_eq_passed, TestState.isPassed]
  · rw [failed, unstated, Option.getD_none, ended]
    simp only [TestState.outcome_eq_failed, TestState.isFailed]

namespace Repeated

/-- A run whose report has two records of one test. -/
def tree : FileSystem where
  root := .directory [("run-1", .directory [
    ("artifacts", .directory [("metadata.json", .file "\x7b\x7d".toUTF8 ⟨0, 0⟩)]),
    ("reports", .directory [("report.json", .file
      "[\x7b\"SpecReports\":[
        \x7b\"LeafNodeText\":\"x\",\"State\":\"failed\"\x7d,
        \x7b\"LeafNodeText\":\"y\",\"State\":\"skipped\"\x7d,
        \x7b\"LeafNodeText\":\"x\",\"State\":\"passed\"\x7d]\x7d]".toUTF8 ⟨0, 0⟩)])])]
  working := []

/-- The run has two tests and no failure, and so has its column beside an older run. -/
theorem totals_repeated : ∃ run metadata,
    (readRun tree ⟨"run-1"⟩ ⟨"."⟩ .default).value = .ok run ∧
      readMetadata tree ⟨"run-1"⟩ = .ok metadata ∧
      (metadata.totalTests, metadata.passedTests, metadata.failedTests) = (none, none, none) ∧
      (run.totalTests, run.passedTests, run.failedTests) = (2, 1, 0) ∧
      run.CountsColumn metadata (pivot [.bare "2" [.bare "x" .failed], run]) 1 := by
  have figures : (readRun tree ⟨"run-1"⟩ ⟨"."⟩ .default).value.toOption.map
      (fun run => (run.totalTests, run.passedTests, run.failedTests)) = some (2, 1, 0) := by
    decide +kernel
  have unstated : (readMetadata tree ⟨"run-1"⟩).toOption.map
      (fun m => (m.totalTests, m.passedTests, m.failedTests)) = some (none, none, none) := by
    decide +kernel
  cases read : (readRun tree ⟨"run-1"⟩ ⟨"."⟩ .default).value with
  | error e =>
    rw [read] at figures
    exact nomatch figures
  | ok run =>
    cases parsed : readMetadata tree ⟨"run-1"⟩ with
    | error e =>
      rw [parsed] at unstated
      exact nomatch unstated
    | ok metadata =>
      rw [read] at figures
      rw [parsed] at unstated
      exact ⟨run, metadata, rfl, rfl, Option.some.inj unstated, Option.some.inj figures,
        totals_countColumn rfl read parsed⟩

end Repeated

end TestHistory
