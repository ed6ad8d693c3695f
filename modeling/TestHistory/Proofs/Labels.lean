import TestHistory.Analysis.Report
import TestHistory.Proofs.ByteOrder
import TestHistory.Proofs.RunReading
import TestHistory.Proofs.ScanOrder

/-!
# The labels of a report

Labels are collected from all records of the runs, and rows show the last record of each name only.
A scan gives runs without repeated names, so the labels on offer are those that the rows have
(`scan_offersLabels`).
-/

namespace TestHistory

/-- A run of the row has a record with the label. -/
def Row.Carries (row : Row) (label : String) : Prop :=
  ∃ cell ∈ row.cells, ∃ t, cell.record = some t ∧ label ∈ t.labels

/-- The labels of the rows, in the order of their bytes and each one once. -/
structure Report.OffersLabels (report : Report) : Prop where
  ordered : report.labels.Pairwise fun a b => Text.bytes a < Text.bytes b
  carried : ∀ label, label ∈ report.labels ↔ ∃ row ∈ report.rows, row.Carries label

/-! ### Collecting -/

theorem mem_collectLabels {runs : List Run} {label : String} :
    label ∈ collectLabels runs ↔ ∃ run ∈ runs, ∃ t ∈ run.tests, label ∈ t.labels := by
  unfold collectLabels
  dsimp only
  rw [Keyed.mem_keys_ofList, List.map_map]
  simp

theorem collectLabels_ordered (runs : List Run) :
    (collectLabels runs).Pairwise fun a b => Text.bytes a < Text.bytes b := by
  have sorted : (collectLabels runs).Pairwise (· < ·) := Keyed.sorted_ofList _
  exact sorted.imp Text.bytes_lt

/-! ### The cells of rows -/

/-- A row holds just the records that no later record of their run hides. -/
theorem Pivot.exists_cell_iff {runs : List Run} {t : TestRecord} :
    (∃ row ∈ pivot runs, ∃ cell ∈ row.cells, cell.record = some t) ↔
      ∃ run ∈ runs, run.LastRecord t.fullName t := by
  constructor
  · rintro ⟨row, member, cell, inside, record⟩
    obtain ⟨name, -, rfl⟩ := mem_pivot.mp member
    rw [row_cells] at inside
    obtain ⟨run, listed, rfl⟩ := List.mem_map.mp inside
    have last := lastRecord_eq_some_iff.mp record
    obtain ⟨earlier, later, split, named, others⟩ := last
    exact ⟨run, listed, earlier, later, split, rfl, named ▸ others⟩
  · rintro ⟨run, listed, last⟩
    refine ⟨row runs t.fullName, mem_pivot.mpr ⟨_, ?_, rfl⟩, cell t.fullName run, ?_, ?_⟩
    · exact mem_names.mpr ⟨run, listed, last.records⟩
    · rw [row_cells]
      exact List.mem_map_of_mem listed
    · exact lastRecord_eq_some_iff.mpr last

theorem Run.lastRecord_iff_mem {run : Run} {t : TestRecord}
    (distinct : (run.tests.map TestRecord.fullName).Nodup) :
    run.LastRecord t.fullName t ↔ t ∈ run.tests := by
  rw [← Pivot.lastRecord_eq_some_iff, Pivot.lastRecord_eq_some_of_nodup distinct]
  exact and_iff_left rfl

/-- Where no run repeats a name, no record is hidden. -/
theorem offersLabels_of_nodup {runs : List Run}
    (distinct : ∀ run ∈ runs, (run.tests.map TestRecord.fullName).Nodup) :
    (Report.ofRuns runs).OffersLabels := by
  refine ⟨collectLabels_ordered runs, fun label => mem_collectLabels.trans ?_⟩
  constructor
  · rintro ⟨run, listed, t, member, labelled⟩
    have last := (Run.lastRecord_iff_mem (distinct run listed)).mpr member
    obtain ⟨row, shown, cell, inside, record⟩ := Pivot.exists_cell_iff.mpr ⟨run, listed, last⟩
    exact ⟨row, shown, cell, inside, t, record, labelled⟩
  · rintro ⟨row, shown, cell, inside, t, record, labelled⟩
    obtain ⟨run, listed, last⟩ := Pivot.exists_cell_iff.mp ⟨row, shown, cell, inside, record⟩
    have member := (Run.lastRecord_iff_mem (distinct run listed)).mp last
    exact ⟨run, listed, t, member, labelled⟩

/-! ### The runs of a scan -/

theorem Run.IsOf.tests {dir : Path} {read run : Run} (same : IsOf dir read run) :
    run.tests = read.tests := by
  rcases same with rfl | rfl <;> rfl

theorem Scanned.exists_found {found : List (Path × Run)} {run : Run}
    (member : run ∈ (collect found).runs) : ∃ entry ∈ found, run.tests = entry.2.tests := by
  have same := collect_runs found
  obtain ⟨position, here, rfl⟩ := List.mem_iff_getElem.mp (List.mem_reverse.mpr member)
  have paired := (List.forall₂_iff_get.mp same).2 position (same.length_eq ▸ here) here
  exact ⟨_, List.get_mem found _, paired.tests⟩

/-- Runs are read one by one and sorted; none of them repeats a name. -/
theorem exists_scan_nodup (fs : FileSystem) (root : Path) (options : ScanOptions) :
    ∃ runs, (scan fs root options).value = .ok runs ∧
      ∀ run ∈ runs, (run.tests.map TestRecord.fullName).Nodup := by
  refine ⟨_, scan_value fs root options, fun run member => ?_⟩
  rw [(Run.sortNewestFirst_perm _).mem_iff, List.mem_reverse] at member
  obtain ⟨entry, found, same⟩ := Scanned.exists_found member
  obtain ⟨dir, -, foundHere⟩ := List.mem_filterMap.mp found
  have read := (foundRun_eq_some.mp foundHere).2
  rw [same]
  exact nodup_tests_of_read read

/-- Each label that is offered stands in a row, and each label of a row is offered. -/
theorem scan_offersLabels (fs : FileSystem) (root : Path) (options : ScanOptions) :
    ∃ runs, (scan fs root options).value = .ok runs ∧ (Report.ofRuns runs).OffersLabels := by
  obtain ⟨runs, scanned, distinct⟩ := exists_scan_nodup fs root options
  exact ⟨runs, scanned, offersLabels_of_nodup distinct⟩

namespace Relabelled

/-- One test is recorded twice, the second time with another label. -/
def tree : FileSystem where
  root := .directory [("run-1", .directory [
    ("artifacts", .directory [("metadata.json", .file "\x7b\x7d".toUTF8 ⟨0, 0⟩)]),
    ("reports", .directory [("report.json", .file
      "[\x7b\"SpecReports\":[\x7b\"LeafNodeText\":\"x\",\"LeafNodeLabels\":[\"old\"]\x7d,\x7b\"LeafNodeText\":\"x\",\"LeafNodeLabels\":[\"new\"]\x7d]\x7d]".toUTF8
      ⟨0, 0⟩)])])]
  working := []

/-- The label of the hidden record is not on offer, and no row has it. -/
theorem offersLabels_relabelled : ∃ runs, (scan tree ⟨"."⟩ .default).value = .ok runs ∧
    (Report.ofRuns runs).labels = ["new"] ∧
    (∃ row ∈ (Report.ofRuns runs).rows, row.Carries "new") ∧
    ¬ ∃ row ∈ (Report.ofRuns runs).rows, row.Carries "old" := by
  obtain ⟨runs, scanned, offers⟩ := scan_offersLabels tree ⟨"."⟩ .default
  have found : (scan tree ⟨"."⟩ .default).value.toOption.map
      (fun runs => (Report.ofRuns runs).labels) = some ["new"] := by
    decide +kernel
  rw [scanned] at found
  have labels : (Report.ofRuns runs).labels = ["new"] := Option.some.inj found
  refine ⟨runs, scanned, labels, ?_, fun carried => ?_⟩
  · rw [← offers.carried, labels]
    exact List.mem_cons_self
  · rw [← offers.carried, labels] at carried
    exact absurd carried (by decide)

end Relabelled

end TestHistory
