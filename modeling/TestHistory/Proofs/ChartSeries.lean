import TestHistory.Proofs.ChartOrder
import TestHistory.Proofs.RowFigures

/-!
# The series of the charts

The labels, the figures and the points of the charts are lists of their own. `SeriesOf` says that
they describe the same runs at the same places, and that the order of the runs matters only where
two of them started at one time.
-/

namespace TestHistory

/-- What stands at a place of the five lists describes the run. -/
structure Trend.Describes (trend : Trend) (i : Nat) (run : Run) : Prop where
  passRateLabel : trend.passRate.labels[i]? = some ("Run " ++ run.id)
  passRate : trend.passRate.data[i]? = some (Binary64.roundTenth run.passRate)
  durationLabel : trend.duration.labels[i]? = some ("Run " ++ run.id)
  duration : trend.duration.data[i]? = some (Binary64.roundTenth run.totalRuntime)
  point : trend.points[i]? = some
    { runId := run.id
      timestamp := run.startTime
      total := run.totalTests
      passed := run.passedTests
      failed := run.failedTests
      runtime := Binary64.roundTenth run.totalRuntime }

/-- The charts of runs that are given in any order. -/
structure Trend.SeriesOf (runs : List Run) (trend : Trend) : Prop where
  lengths : ∀ n ∈ [trend.passRate.labels.length, trend.passRate.data.length,
    trend.duration.labels.length, trend.duration.data.length, trend.points.length], n = runs.length
  /-- Each run is described once, in the order of the keys. -/
  described : ∃ order : List Run, order.Perm runs ∧ (order.Pairwise fun a b => a.key ≤ b.key) ∧
    ∀ i run, order[i]? = some run → trend.Describes i run

namespace Trend

theorem describes_ofRuns {runs : List Run} {i : Nat} {run : Run}
    (found : (Run.sortOldestFirst runs)[i]? = some run) : (ofRuns runs).Describes i run := by
  have passRate := passRate_ofRuns runs
  have duration := duration_ofRuns runs
  constructor
  case passRateLabel => rw [passRate.labels, List.getElem?_map, found]; rfl
  case passRate => rw [passRate.data, List.getElem?_map, found]; rfl
  case durationLabel => rw [duration.labels, List.getElem?_map, found]; rfl
  case duration => rw [duration.data, List.getElem?_map, found]; rfl
  case point => rw [points_ofRuns, List.getElem?_map, found]; rfl

theorem seriesOf_ofRuns (runs : List Run) : SeriesOf runs (ofRuns runs) := by
  have perm : (Run.sortOldestFirst runs).Perm runs := List.mergeSort_perm runs _
  constructor
  case lengths => simp [ofRuns, perm.length_eq]
  case described =>
    refine ⟨_, perm, Sorting.ascending_mergeSort Run.byKey_oldestFirst runs, ?_⟩
    intro i run found
    exact describes_ofRuns found

end Trend

theorem Run.sortOldestFirst_of_perm {runs others : List Run} (distinct : (runs.map startTime).Nodup)
    (perm : others.Perm runs) : sortOldestFirst others = sortOldestFirst runs := by
  have keys : (runs.map key).Nodup := by
    rw [List.Nodup, List.pairwise_map] at distinct ⊢
    exact distinct.imp fun {a b} different => mt key_inj.mp different
  exact Sorting.mergeSort_eq_of_perm byKey_oldestFirst keys perm

/-- All series describe the same runs, oldest first, and if no two runs have one start they do not
depend on the order in which the runs are given. -/
theorem ofRuns_series (runs : List Run) :
    Trend.SeriesOf runs (Trend.ofRuns runs) ∧
      ((runs.map Run.startTime).Nodup → ∀ others : List Run, others.Perm runs →
        Trend.ofRuns others = Trend.ofRuns runs) := by
  refine ⟨Trend.seriesOf_ofRuns runs, ?_⟩
  intro distinct others perm
  rw [Trend.ofRuns, Trend.ofRuns, Run.sortOldestFirst_of_perm distinct perm]

namespace Shuffled

/-- One instant in two spellings, and a start that is no instant. -/
def runs : List Run := [
  { Run.bare "1" [] with startTime := "2025-03-01T00:00:00Z" },
  { Run.bare "2" [] with startTime := "soon" },
  { Run.bare "3" [] with startTime := "2025-03-01T01:00:00+01:00" }]

end Shuffled

theorem ofRuns_series_shuffled : (Shuffled.runs.map Run.startTime).Nodup ∧
    Shuffled.runs.reverse.Perm Shuffled.runs ∧
    Trend.ofRuns Shuffled.runs.reverse = Trend.ofRuns Shuffled.runs := by
  have distinct : (Shuffled.runs.map Run.startTime).Nodup := by decide
  have perm := List.reverse_perm Shuffled.runs
  exact ⟨distinct, perm, (ofRuns_series Shuffled.runs).2 distinct _ perm⟩

end TestHistory
