import Mathlib.Data.Bool.Count
import TestHistory.Proofs.Pivot

/-!
# The figures of a row

`Row.FiguresOf` says how the figures of a row follow from the outcomes of its cells. They are read off
a tally, which adds one record after the other (`Tally.add_eq`, `Tally.foldl_add`). Every row of
`pivot` has them (`pivot_figures`), and has one outcome or more.
-/

namespace TestHistory

def Cell.outcome? (cell : Cell) : Option Outcome :=
  cell.record.map fun t => t.state.outcome

/-- The figures of a row with the given outcomes, newest first. -/
structure Row.FiguresOf (row : Row) (outcomes : List Outcome) : Prop where
  passes : row.passCount = outcomes.count .passed
  failures : row.failCount = outcomes.count .failed
  skips : row.skipCount = outcomes.count .skipped
  sum : row.passCount + row.failCount + row.skipCount = row.totalRuns
  total : row.totalRuns = outcomes.length
  positive : 1 ≤ row.totalRuns
  flaky : row.isFlaky = true ↔ .passed ∈ outcomes ∧ .failed ∈ outcomes
  alternating : row.pattern = .alternating ↔
    row.isFlaky = true ∧ 3 ≤ outcomes.length ∧ outcomes.IsChain (· ≠ ·)
  stable : row.pattern ≠ .alternating → row.pattern = .stable
  score : row.isFlaky = false → row.flakiness = 0.0
  alwaysFailing : row.isAlwaysFailing = true ↔ ∀ outcome ∈ outcomes, outcome = .failed
  exclusive : ¬ (row.isFlaky = true ∧ row.isAlwaysFailing = true)
  balanced : row.pattern = .alternating → .skipped ∉ outcomes →
    ((row.passCount : Int) - row.failCount).natAbs ≤ 1

/-! ### Sequences of outcomes -/

theorem count_outcomes (outcomes : List Outcome) :
    outcomes.count .passed + outcomes.count .failed + outcomes.count .skipped = outcomes.length := by
  induction outcomes with
  | nil => rfl
  | cons outcome outcomes ih =>
    rw [List.length_cons, ← ih]
    cases outcome <;> simp <;> omega

theorem Pattern.changes_iff {outcomes : List Outcome} :
    changes outcomes = true ↔ outcomes.IsChain (· ≠ ·) := by
  fun_induction changes outcomes with
  | case1 a b rest ih => simp [ih]
  | case2 outcomes short =>
    match outcomes with
    | [] => simp
    | [a] => simp
    | a :: b :: rest => exact absurd rfl (short a b rest)

theorem Pattern.ofOutcomes_eq_alternating {outcomes : List Outcome} :
    ofOutcomes outcomes = alternating ↔ 3 ≤ outcomes.length ∧ outcomes.IsChain (· ≠ ·) := by
  rw [ofOutcomes, ← changes_iff]
  split
  · rename_i both
    exact iff_of_true rfl both
  · rename_i neither
    exact iff_of_false Pattern.noConfusion neither

/-- Without skips, unequal neighbours are a pass and a failure in turn. -/
theorem balanced_of_isChain {outcomes : List Outcome} (chain : outcomes.IsChain (· ≠ ·))
    (noSkip : .skipped ∉ outcomes) :
    ((outcomes.count .passed : Int) - outcomes.count .failed).natAbs ≤ 1 := by
  -- Read as truth values, the outcomes alternate between true and false.
  have letters : (outcomes.map (· == .passed)).IsChain (· ≠ ·) := by
    rw [List.isChain_map]
    refine chain.imp_of_mem_imp ?_
    intro a b memA memB different
    cases a <;> cases b <;> simp_all
  have passes : (outcomes.map (· == .passed)).count true = outcomes.count .passed := by
    rw [List.count, List.countP_map]
    exact List.countP_congr fun outcome _ => by cases outcome <;> simp
  have failures : (outcomes.map (· == .passed)).count false = outcomes.count .failed := by
    rw [List.count, List.countP_map]
    refine List.countP_congr fun outcome member => ?_
    cases outcome <;> simp_all
  have lower := letters.count_false_le_count_true_add_one
  have upper := letters.count_true_le_count_false_add_one
  rw [passes, failures] at lower upper
  omega

/-! ### Tallies -/

namespace Tally

/-- A record adds one to the total and one to the count of its outcome. -/
theorem add_eq (tally : Tally) (t : TestRecord) :
    tally.add t = {
      totalRuns := tally.totalRuns + 1
      passCount := tally.passCount + if t.state.outcome = .passed then 1 else 0
      failCount := tally.failCount + if t.state.outcome = .failed then 1 else 0
      skipCount := tally.skipCount + if t.state.outcome = .skipped then 1 else 0
      totalRuntime := tally.totalRuntime + t.runtime
      minRuntime := Binary64.least tally.minRuntime t.runtime
      maxRuntime := Binary64.greatest tally.maxRuntime t.runtime } := by
  unfold add
  cases t.state.outcome <;> rfl

/-- After a list of records, the counts have grown by those of its outcomes, and the runtimes have
been added up and compared from first to last. -/
theorem foldl_add (records : List TestRecord) (tally : Tally) :
    records.foldl add tally = {
      totalRuns := tally.totalRuns + records.length
      passCount := tally.passCount + (records.map fun t => t.state.outcome).count .passed
      failCount := tally.failCount + (records.map fun t => t.state.outcome).count .failed
      skipCount := tally.skipCount + (records.map fun t => t.state.outcome).count .skipped
      totalRuntime := Binary64.sum tally.totalRuntime (records.map TestRecord.runtime)
      minRuntime := (records.map TestRecord.runtime).foldl Binary64.least tally.minRuntime
      maxRuntime := (records.map TestRecord.runtime).foldl Binary64.greatest tally.maxRuntime } := by
  induction records generalizing tally with
  | nil => rfl
  | cons t records ih =>
    have counts (n : Nat) (o : Outcome) :
        n + (if t.state.outcome = o then 1 else 0) + (records.map fun t => t.state.outcome).count o =
          n + ((t :: records).map fun t => t.state.outcome).count o := by
      rw [List.map_cons, List.count_cons, Nat.add_assoc, Nat.add_comm (List.count _ _)]
      simp only [beq_iff_eq]
    have total : tally.totalRuns + 1 + records.length = tally.totalRuns + (t :: records).length := by
      rw [List.length_cons]
      omega
    rw [List.foldl_cons, ih, add_eq]
    simp only [counts, total]
    rfl

end Tally

/-! ### Rows -/

namespace Row

theorem outcomes_eq (row : Row) : row.outcomes = row.cells.filterMap Cell.outcome? := by
  rw [outcomes, records, List.map_filterMap]
  rfl

theorem tally_eq (row : Row) :
    row.tally = {
      totalRuns := row.outcomes.length
      passCount := row.outcomes.count .passed
      failCount := row.outcomes.count .failed
      skipCount := row.outcomes.count .skipped
      totalRuntime := Binary64.sum 0.0 row.runtimes
      minRuntime := row.runtimes.foldl Binary64.least Tally.infinity
      maxRuntime := row.runtimes.foldl Binary64.greatest 0.0 } := by
  rw [tally, Tally.ofRecords, Tally.foldl_add]
  simp only [Tally.start, Nat.zero_add, outcomes, runtimes, List.length_map]

theorem totalRuns_eq (row : Row) : row.totalRuns = row.outcomes.length := by
  rw [totalRuns, tally_eq]

theorem passCount_eq (row : Row) : row.passCount = row.outcomes.count .passed := by
  rw [passCount, tally_eq]

theorem failCount_eq (row : Row) : row.failCount = row.outcomes.count .failed := by
  rw [failCount, tally_eq]

theorem skipCount_eq (row : Row) : row.skipCount = row.outcomes.count .skipped := by
  rw [skipCount, tally_eq]

theorem counts_sum (row : Row) : row.passCount + row.failCount + row.skipCount = row.totalRuns := by
  rw [passCount_eq, failCount_eq, skipCount_eq, totalRuns_eq]
  exact count_outcomes row.outcomes

theorem isFlaky_iff {row : Row} :
    row.isFlaky = true ↔ .passed ∈ row.outcomes ∧ .failed ∈ row.outcomes := by
  have sum := row.counts_sum
  rw [← List.count_pos_iff, ← List.count_pos_iff, ← passCount_eq, ← failCount_eq]
  simp only [isFlaky, Bool.and_eq_true, decide_eq_true_eq]
  omega

theorem pattern_eq_alternating {row : Row} :
    row.pattern = .alternating ↔
      row.isFlaky = true ∧ 3 ≤ row.outcomes.length ∧ row.outcomes.IsChain (· ≠ ·) := by
  unfold pattern
  split
  · rename_i flaky
    rw [Pattern.ofOutcomes_eq_alternating, and_iff_right flaky]
  · rename_i steady
    exact iff_of_false Pattern.noConfusion fun both => steady both.1

theorem flakiness_of_not_isFlaky {row : Row} (steady : row.isFlaky = false) :
    row.flakiness = 0.0 := by
  rw [flakiness, if_neg (Bool.eq_false_iff.mp steady)]

theorem isAlwaysFailing_iff {row : Row} (positive : 1 ≤ row.totalRuns) :
    row.isAlwaysFailing = true ↔ ∀ outcome ∈ row.outcomes, outcome = .failed := by
  unfold isAlwaysFailing
  have present : 0 < row.totalRuns := positive
  rw [Bool.and_eq_true, decide_eq_true_eq, decide_eq_true_eq, and_iff_right present,
    failCount_eq, totalRuns_eq, List.count_eq_length]
  exact forall₂_congr fun _ _ => eq_comm

theorem not_flaky_and_alwaysFailing (row : Row) :
    ¬ (row.isFlaky = true ∧ row.isAlwaysFailing = true) := by
  rintro ⟨flaky, failing⟩
  have sum := row.counts_sum
  simp only [isFlaky, isAlwaysFailing, Bool.and_eq_true, decide_eq_true_eq] at flaky failing
  omega

/-- A row with an outcome has the figures of its outcomes. -/
theorem figuresOf_outcomes {row : Row} (positive : 1 ≤ row.totalRuns) :
    row.FiguresOf row.outcomes where
  passes := row.passCount_eq
  failures := row.failCount_eq
  skips := row.skipCount_eq
  sum := row.counts_sum
  total := row.totalRuns_eq
  positive := positive
  flaky := isFlaky_iff
  alternating := pattern_eq_alternating
  stable different := by
    cases shape : row.pattern with
    | stable => rfl
    | alternating => exact absurd shape different
  score := flakiness_of_not_isFlaky
  alwaysFailing := isAlwaysFailing_iff positive
  exclusive := row.not_flaky_and_alwaysFailing
  balanced shape noSkip := by
    rw [passCount_eq, failCount_eq]
    exact balanced_of_isChain (pattern_eq_alternating.mp shape).2.2 noSkip

end Row

/-! ### Rows of the pivot -/

theorem Pivot.outcomes_row (runs : List Run) (name : String) :
    (row runs name).outcomes =
      runs.filterMap fun run => (lastRecord name run.tests).map fun t => t.state.outcome := by
  rw [Row.outcomes_eq, row_cells, List.filterMap_map]
  rfl

theorem TestState.outcome_eq_passed {s : TestState} : s.outcome = .passed ↔ s = .passed := by
  cases s <;> simp [outcome]

theorem TestState.outcome_eq_failed {s : TestState} : s.outcome = .failed ↔ s = .failed := by
  cases s <;> simp [outcome]

/-- Whether the last record of a test has an outcome. -/
def Run.hasOutcome (name : String) (outcome : Outcome) (run : Run) : Bool :=
  (Pivot.lastRecord name run.tests).map (fun t => t.state.outcome) == some outcome

theorem Run.hasOutcome_iff {run : Run} {name : String} {outcome : Outcome} :
    run.hasOutcome name outcome = true ↔ ∃ t, run.LastRecord name t ∧ t.state.outcome = outcome := by
  simp [hasOutcome, Pivot.lastRecord_eq_some_iff]

theorem count_outcomes_row (runs : List Run) (name : String) (outcome : Outcome) :
    (Pivot.row runs name).outcomes.count outcome = runs.countP (Run.hasOutcome name outcome) := by
  rw [Pivot.outcomes_row, List.count_filterMap]
  rfl

theorem hasOutcome_passed {run : Run} {name : String} :
    run.hasOutcome name .passed = true ↔ run.Ended name .passed := by
  simp only [Run.hasOutcome_iff, TestState.outcome_eq_passed, Run.Ended]

theorem hasOutcome_failed {run : Run} {name : String} :
    run.hasOutcome name .failed = true ↔ run.Ended name .failed := by
  simp only [Run.hasOutcome_iff, TestState.outcome_eq_failed, Run.Ended]

theorem totalRuns_pos {runs : List Run} {row : Row} (member : row ∈ pivot runs) :
    1 ≤ row.totalRuns := by
  obtain ⟨name, present, rfl⟩ := mem_pivot.mp member
  obtain ⟨run, memRun, records⟩ := Pivot.mem_names.mp present
  obtain ⟨t, found⟩ := Option.isSome_iff_exists.mp (Pivot.lastRecord_isSome.mpr records)
  rw [Row.totalRuns_eq, Pivot.outcomes_row]
  refine List.length_pos_of_mem (a := t.state.outcome) (List.mem_filterMap.mpr ⟨run, memRun, ?_⟩)
  rw [found]
  rfl

/-- Every row of the pivot has the figures of its present cells. -/
theorem pivot_figures {runs : List Run} {row : Row} (member : row ∈ pivot runs) :
    row.FiguresOf (row.cells.filterMap Cell.outcome?) :=
  row.outcomes_eq ▸ Row.figuresOf_outcomes (totalRuns_pos member)

/-! ### A history -/

def TestRecord.bare (name : String) (state : TestState) : TestRecord where
  fullName := name
  leafText := name
  state
  runtime := 1.0
  failureMessage := ""
  labels := []
  containers := []
  startTime := ""
  endTime := ""
  artifact := none

def Run.bare (id : String) (tests : List TestRecord) : Run where
  id
  startTime := ""
  totalTests := tests.length
  passedTests := tests.countP fun t => t.state.isPassed
  failedTests := tests.countP fun t => t.state.isFailed
  environment := []
  totalRuntime := 0.0
  commit := ""
  branch := ""
  dirty := ""
  description := ""
  consoleLog := ""
  tests

/-- Four runs: the third latest has two records of the test, the second latest has none. -/
def history : List Run :=
  [.bare "4" [.bare "t" .passed], .bare "3" [.bare "u" .unknown],
    .bare "2" [.bare "t" .passed, .bare "t" .failed], .bare "1" [.bare "t" .passed]]

theorem history_figures : Pivot.row history "t" ∈ pivot history ∧
    (Pivot.row history "t").FiguresOf [.passed, .failed, .passed] := by
  have recorded : ∃ run ∈ history, run.Records "t" :=
    ⟨.bare "4" [.bare "t" .passed], List.mem_cons_self, _, List.mem_cons_self, rfl⟩
  have member : Pivot.row history "t" ∈ pivot history :=
    mem_pivot.mpr ⟨"t", Pivot.mem_names.mpr recorded, rfl⟩
  have cells : (Pivot.row history "t").cells.filterMap Cell.outcome? =
      [.passed, .failed, .passed] := by
    decide
  exact ⟨member, cells ▸ pivot_figures member⟩

end TestHistory
