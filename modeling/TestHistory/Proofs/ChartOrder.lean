import TestHistory.Analysis.Summary
import TestHistory.Analysis.Trend
import TestHistory.Proofs.RunOrder
import TestHistory.Proofs.ScannedRuns

/-!
# The order of the charts

Charts begin with the oldest run, a scan with the newest. `ChartsStored` says how the two orders
meet: the charts turn the stored runs around, except that runs of one start keep their stored order.
-/

namespace TestHistory

/-- The stored runs turned around, runs of one start as a whole. -/
def Run.chronicle (stored : List Run) : List Run :=
  (stored.splitBy fun a b => a.startTime = b.startTime).reverse.flatten

def Run.label (run : Run) : String :=
  "Run " ++ run.id

/-- A chart shows a figure of every run. -/
structure Chart.Shows (chart : Chart) (runs : List Run) (figure : Run → Float) : Prop where
  labels : chart.labels = runs.map Run.label
  data : chart.data = runs.map fun run => Binary64.roundTenth (figure run)

/-- The charts of stored runs. -/
structure ChartsStored (stored : List Run) (trend : Trend) : Prop where
  points : trend.points = (Run.chronicle stored).map RunPoint.ofRun
  passRate : trend.passRate.Shows (Run.chronicle stored) Run.passRate
  duration : trend.duration.Shows (Run.chronicle stored) Run.totalRuntime
  /-- Runs of different starts are simply turned around. -/
  distinct : (stored.map Run.startTime).Nodup → Run.chronicle stored = stored.reverse
  /-- Runs of one start stand as they are stored. -/
  level : ∀ run ∈ stored, (Run.chronicle stored).filter (fun r => r.startTime = run.startTime) =
    stored.filter fun r => r.startTime = run.startTime
  /-- The charts end with the last stored run that started with the first one. -/
  last : ∀ latest older, stored = latest :: older →
    (Run.chronicle stored).getLast? =
      (stored.filter fun run => run.startTime = latest.startTime).getLast?
  /-- That is the latest run of the summary if no other run started with it. -/
  latest : ∀ latest older, stored = latest :: older →
    (∀ run ∈ older, run.startTime ≠ latest.startTime) →
    (Run.chronicle stored).getLast? = some latest ∧
      ∀ rows, (Summary.ofRuns stored rows).latestRunId = some latest.id

/-! ### Stored runs -/

namespace Trend

theorem points_ofRuns (runs : List Run) :
    (ofRuns runs).points = (Run.sortOldestFirst runs).map RunPoint.ofRun := rfl

theorem passRate_ofRuns (runs : List Run) :
    (ofRuns runs).passRate.Shows (Run.sortOldestFirst runs) Run.passRate := ⟨rfl, rfl⟩

theorem duration_ofRuns (runs : List Run) :
    (ofRuns runs).duration.Shows (Run.sortOldestFirst runs) Run.totalRuntime := ⟨rfl, rfl⟩

end Trend

section

variable {stored : List Run} (descending : stored.Pairwise fun a b => b.key ≤ a.key)

include descending

theorem Run.sortOldestFirst_of_descending : sortOldestFirst stored = chronicle stored := by
  have same : Sorting.groups key stored =
      stored.splitBy fun a b => a.startTime = b.startTime := by
    simp only [Sorting.groups, key_inj]
  rw [sortOldestFirst, Sorting.mergeSort_of_descending byKey_oldestFirst descending, same, chronicle]

theorem Run.chronicle_of_nodup (distinct : (stored.map startTime).Nodup) :
    chronicle stored = stored.reverse := by
  have strict : stored.Pairwise fun a b => b.key < a.key := by
    refine (descending.and (List.pairwise_map.mp distinct)).imp fun {a b} order => ?_
    exact lt_of_le_of_ne order.1 fun same => order.2 (key_inj.mp same).symm
  rw [← sortOldestFirst_of_descending descending, sortOldestFirst,
    Sorting.mergeSort_of_strictlyDescending byKey_oldestFirst strict]

theorem Run.filter_chronicle (run : Run) :
    (chronicle stored).filter (fun r => r.startTime = run.startTime) =
      stored.filter fun r => r.startTime = run.startTime := by
  have kept := Sorting.withKey_mergeSort byKey_oldestFirst run.key stored
  simp only [Sorting.withKey, key_inj] at kept
  rwa [← sortOldestFirst_of_descending descending]

theorem Run.getLast?_chronicle {latest : Run} {older : List Run} (split : stored = latest :: older) :
    (chronicle stored).getLast? =
      (stored.filter fun run => run.startTime = latest.startTime).getLast? := by
  have member : latest ∈ stored := split ▸ List.mem_cons_self
  have bounded : ∀ run ∈ stored, run.key ≤ latest.key := by
    subst split
    exact List.forall_mem_cons.mpr ⟨le_rfl, (List.pairwise_cons.mp descending).1⟩
  rw [← sortOldestFirst_of_descending descending, sortOldestFirst,
    Sorting.getLast?_mergeSort byKey_oldestFirst member bounded]
  simp only [Sorting.withKey, key_inj]

theorem chartsStored_of_descending : ChartsStored stored (Trend.ofRuns stored) := by
  have sorted := Run.sortOldestFirst_of_descending descending
  exact {
    points := sorted ▸ Trend.points_ofRuns stored
    passRate := sorted ▸ Trend.passRate_ofRuns stored
    duration := sorted ▸ Trend.duration_ofRuns stored
    distinct := Run.chronicle_of_nodup descending
    level := fun run _ => Run.filter_chronicle descending run
    last := fun latest older => Run.getLast?_chronicle descending
    latest := by
      intro latest older split others
      constructor
      · rw [Run.getLast?_chronicle descending split, split, List.filter_cons_of_pos (by simp),
          List.filter_eq_nil_iff.mpr fun run member => by simpa using others run member]
        rfl
      · intro rows
        rw [split]
        rfl }

end

/-! ### Scanned runs -/

theorem Run.descending_sortNewestFirst (runs : List Run) :
    (sortNewestFirst runs).Pairwise fun a b => b.key ≤ a.key :=
  Sorting.ascending_mergeSort byKey_newestFirst runs

/-- The charts of the runs of a scan. -/
theorem scan_chartsStored (fs : FileSystem) (root : Path) (options : ScanOptions) :
    ∃ stored, (scan fs root options).value = .ok stored ∧
      ChartsStored stored (Trend.ofRuns stored) :=
  ⟨_, scan_value fs root options, chartsStored_of_descending (Run.descending_sortNewestFirst _)⟩

/-! ### Two runs of one start -/

theorem Run.sort_of_level {runs : List Run}
    (level : ∀ a ∈ runs, ∀ b ∈ runs, a.startTime = b.startTime) :
    sortNewestFirst runs = runs ∧ sortOldestFirst runs = runs := by
  have keys : ∀ a ∈ runs, ∀ b ∈ runs, a.key = b.key :=
    fun a memA b memB => key_inj.mpr (level a memA b memB)
  constructor
  · exact List.mergeSort_of_pairwise (List.pairwise_of_forall_mem_list fun a memA b memB =>
      (byKey_newestFirst a b).mpr (keys b memB a memA).le)
  · exact List.mergeSort_of_pairwise (List.pairwise_of_forall_mem_list fun a memA b memB =>
      (byKey_oldestFirst a b).mpr (keys a memA b memB).le)

namespace Twins

def runNode (id : String) : Node :=
  .directory [
    ("artifacts", .directory [
      ("metadata.json",
        .file ("\x7b\"run_id\":\"" ++ id ++ "\",\"start_time\":\"2025-01-01T10:00:00Z\"\x7d").toUTF8
          ⟨0, 0⟩)]),
    ("reports", .directory [("report.json", .file "[]".toUTF8 ⟨0, 0⟩)])]

def tree : FileSystem where
  root := .directory [("run-a", runNode "1"), ("run-b", runNode "2")]
  working := []

def runs : List Run :=
  (Scanned.collect (foundRuns tree ⟨"."⟩ .default)).runs.reverse

theorem starts_runs : runs.map Run.startTime = ["2025-01-01T10:00:00Z", "2025-01-01T10:00:00Z"] := by
  decide +kernel

theorem ids_runs : runs.map Run.id = ["1", "2"] := by
  decide +kernel

end Twins

/-- Runs of one start stand in one order in the scan and in the charts. -/
theorem charts_keep_twins :
    ¬ ∀ (fs : FileSystem) (root : Path) (options : ScanOptions) (stored : List Run),
      (scan fs root options).value = .ok stored →
        (Trend.ofRuns stored).points = (stored.map RunPoint.ofRun).reverse := by
  intro turned
  -- Both sorts leave runs of one start as they are, so nothing is turned around.
  have level : ∀ a ∈ Twins.runs, ∀ b ∈ Twins.runs, a.startTime = b.startTime := by
    have start : ∀ a ∈ Twins.runs, a.startTime = "2025-01-01T10:00:00Z" := by
      intro a member
      have listed := List.mem_map_of_mem (f := Run.startTime) member
      rw [Twins.starts_runs] at listed
      simpa using listed
    exact fun a memA b memB => (start a memA).trans (start b memB).symm
  obtain ⟨newest, oldest⟩ := Run.sort_of_level level
  have points := turned Twins.tree ⟨"."⟩ .default _ (scan_value ..)
  rw [Trend.points_ofRuns] at points
  change (Run.sortOldestFirst (Run.sortNewestFirst Twins.runs)).map RunPoint.ofRun =
    ((Run.sortNewestFirst Twins.runs).map RunPoint.ofRun).reverse at points
  rw [newest, oldest] at points
  have ids := congrArg (List.map RunPoint.runId) points
  rw [List.map_reverse, List.map_map, Function.comp_def] at ids
  change Twins.runs.map Run.id = (Twins.runs.map Run.id).reverse at ids
  rw [Twins.ids_runs] at ids
  exact absurd ids (by decide)

end TestHistory
