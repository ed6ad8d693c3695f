import TestHistory.Proofs.RowFigures
import TestHistory.Proofs.RowOrder

/-!
# Rows do not touch each other

The row of a test is a function of the records of that test alone. `FoldsByTest` says what follows
when the runs are edited: records of other tests are taken away, the records of a run change places,
a run is added. `pivot_foldsByTest` shows it for all runs.
-/

namespace TestHistory

/-- The run with the records of some tests only. -/
def Run.keep (kept : String → Bool) (run : Run) : Run :=
  { run with tests := run.tests.filter fun t => kept t.fullName }

/-- The second run has the records of the first, each of a test of its own, in another order. -/
structure Run.Reordered (run run' : Run) : Prop where
  distinct : (run.tests.map TestRecord.fullName).Nodup
  perm : run'.tests.Perm run.tests
  others : run' = { run with tests := run'.tests }

namespace Row

structure SameFigures (row row' : Row) : Prop where
  totalRuns : row'.totalRuns = row.totalRuns
  passCount : row'.passCount = row.passCount
  failCount : row'.failCount = row.failCount
  skipCount : row'.skipCount = row.skipCount
  passRate : row'.passRate = row.passRate
  totalRuntime : row'.totalRuntime = row.totalRuntime
  averageRuntime : row'.averageRuntime = row.averageRuntime
  minRuntime : row'.minRuntime = row.minRuntime
  maxRuntime : row'.maxRuntime = row.maxRuntime
  isFlaky : row'.isFlaky = row.isFlaky
  isAlwaysFailing : row'.isAlwaysFailing = row.isAlwaysFailing
  flakiness : row'.flakiness = row.flakiness
  pattern : row'.pattern = row.pattern

/-- The second row counts one outcome more than the first. -/
structure CountsOneMore (row row' : Row) (outcome : Outcome) : Prop where
  totalRuns : row'.totalRuns = row.totalRuns + 1
  passCount : row'.passCount = row.passCount + if outcome = .passed then 1 else 0
  failCount : row'.failCount = row.failCount + if outcome = .failed then 1 else 0
  skipCount : row'.skipCount = row.skipCount + if outcome = .skipped then 1 else 0

def withCell (row : Row) (position : Nat) (cell : Cell) : Row :=
  { row with cells := row.cells.insertIdx position cell }

end Row

/-- The rows when a run is added, against those without it. -/
structure AddsRun (newer : List Run) (extra : Run) (older : List Run) : Prop where
  names : ∀ name, name ∈ (pivot (newer ++ extra :: older)).map Row.testName ↔
    name ∈ (pivot (newer ++ older)).map Row.testName ∨ extra.Records name
  /-- A test that the run lacks has one cell more, which is empty. -/
  absent : ∀ row ∈ pivot (newer ++ older), ¬ extra.Records row.testName →
    row.withCell newer.length ⟨extra.id, none⟩ ∈ pivot (newer ++ extra :: older) ∧
      row.SameFigures (row.withCell newer.length ⟨extra.id, none⟩)
  /-- A test of the run has one cell more, which counts. -/
  recorded : ∀ row ∈ pivot (newer ++ older), ∀ t, extra.LastRecord row.testName t →
    ∃ row' ∈ pivot (newer ++ extra :: older), row'.testName = row.testName ∧
      row'.cells = row.cells.insertIdx newer.length ⟨extra.id, some t⟩ ∧
      row.CountsOneMore row' t.state.outcome
  /-- A test of this run alone has a row of its own, with one outcome. -/
  first : ∀ name t, (∀ run ∈ newer ++ older, ¬ run.Records name) → extra.LastRecord name t →
    ∃ row' ∈ pivot (newer ++ extra :: older), row'.testName = name ∧
      row'.outcomes = [t.state.outcome]

/-- The rows are made test by test. -/
structure FoldsByTest (runs : List Run) : Prop where
  /-- Without the records of other tests, the rows of the tests that are kept are the same. -/
  alone : ∀ kept : String → Bool,
    pivot (runs.map (Run.keep kept)) = (pivot runs).filter fun row => kept row.testName
  reordered : ∀ runs', List.Forall₂ Run.Reordered runs runs' → pivot runs' = pivot runs
  added : ∀ newer extra older, runs = newer ++ older → AddsRun newer extra older
  flaky : ∀ more, runs.Sublist more → ∀ row ∈ pivot runs, row.isFlaky = true →
    ∃ row' ∈ pivot more, row'.testName = row.testName ∧ row'.isFlaky = true

namespace Pivot

/-! ### What a row depends on -/

theorem names_congr {runs runs' : List Run}
    (same : ∀ name, (∃ run ∈ runs', run.Records name) ↔ ∃ run ∈ runs, run.Records name) :
    names runs' = names runs :=
  (sorted_names runs').eq_of_mem_iff (sorted_names runs) fun name => by
    rw [mem_names, mem_names, same]

theorem row_congr {runs runs' : List Run} {name : String}
    (same : runs'.map (cell name) = runs.map (cell name)) : row runs' name = row runs name := by
  rw [row, row, same]

theorem records_row (runs : List Run) (name : String) :
    (row runs name).records = runs.filterMap fun run => lastRecord name run.tests := by
  rw [Row.records, row_cells, List.filterMap_map]
  rfl

/-! ### Records of other tests -/

theorem records_keep {kept : String → Bool} {run : Run} {name : String} :
    (run.keep kept).Records name ↔ run.Records name ∧ kept name = true := by
  simp only [Run.Records, Run.keep, List.mem_filter]
  constructor
  · rintro ⟨t, ⟨member, stays⟩, rfl⟩
    exact ⟨⟨t, member, rfl⟩, stays⟩
  · rintro ⟨⟨t, member, rfl⟩, stays⟩
    exact ⟨t, ⟨member, stays⟩, rfl⟩

theorem names_keep (kept : String → Bool) (runs : List Run) :
    names (runs.map (Run.keep kept)) = (names runs).filter kept := by
  refine (sorted_names _).eq_of_mem_iff ((sorted_names runs).filter kept) fun name => ?_
  rw [List.mem_filter, mem_names, mem_names]
  constructor
  · rintro ⟨run', member, records⟩
    obtain ⟨run, inside, rfl⟩ := List.mem_map.mp member
    obtain ⟨records, stays⟩ := records_keep.mp records
    exact ⟨⟨run, inside, records⟩, stays⟩
  · rintro ⟨⟨run, member, records⟩, stays⟩
    exact ⟨_, List.mem_map_of_mem member, records_keep.mpr ⟨records, stays⟩⟩

theorem cell_keep {kept : String → Bool} {name : String} (stays : kept name = true) (run : Run) :
    cell name (run.keep kept) = cell name run := by
  have same : lastRecord name (run.keep kept).tests = lastRecord name run.tests := by
    rw [lastRecord_eq_find?, lastRecord_eq_find?, Run.keep, ← List.filter_reverse,
      List.find?_filter]
    congr 1
    funext t
    by_cases named : t.fullName = name
    · simp [named, stays]
    · simp [named]
  rw [cell, cell, same]
  rfl

theorem row_keep {kept : String → Bool} {name : String} (stays : kept name = true)
    (runs : List Run) : row (runs.map (Run.keep kept)) name = row runs name := by
  refine row_congr ?_
  rw [List.map_map]
  exact List.map_congr_left fun run _ => cell_keep stays run

theorem pivot_keep (kept : String → Bool) (runs : List Run) :
    pivot (runs.map (Run.keep kept)) = (pivot runs).filter fun row => kept row.testName := by
  -- The rows that stay are equal before they are sorted; a stable sort commutes with the choice.
  have rows : (names (runs.map (Run.keep kept))).map (row (runs.map (Run.keep kept))) =
      ((names runs).map (row runs)).filter fun row => kept row.testName := by
    rw [names_keep, List.filter_map]
    simp only [Function.comp_def, row_testName]
    exact List.map_congr_left fun name member => row_keep (List.mem_filter.mp member).2 runs
  rw [pivot, pivot, Row.sort, Row.sort, rows, Sorting.filter_mergeSort Row.byKey_before]

/-! ### The order of records -/

theorem cell_reordered {run run' : Run} (reordered : run.Reordered run') (name : String) :
    cell name run' = cell name run := by
  have distinct' : (run'.tests.map TestRecord.fullName).Nodup :=
    (reordered.perm.map TestRecord.fullName).nodup_iff.mpr reordered.distinct
  have same : lastRecord name run'.tests = lastRecord name run.tests := by
    apply Option.ext
    intro t
    rw [lastRecord_eq_some_of_nodup reordered.distinct, lastRecord_eq_some_of_nodup distinct',
      reordered.perm.mem_iff]
  have id : run'.id = run.id := by rw [reordered.others]
  rw [cell, cell, same, id]

theorem map_cell_reordered {runs runs' : List Run} (reordered : List.Forall₂ Run.Reordered runs runs')
    (name : String) : runs'.map (cell name) = runs.map (cell name) := by
  induction reordered with
  | nil => rfl
  | cons first _ ih => rw [List.map_cons, List.map_cons, cell_reordered first, ih]

theorem exists_records_reordered {runs runs' : List Run}
    (reordered : List.Forall₂ Run.Reordered runs runs') {name : String} :
    (∃ run ∈ runs', run.Records name) ↔ ∃ run ∈ runs, run.Records name := by
  induction reordered with
  | nil => rfl
  | cons first _ ih =>
    rw [List.exists_mem_cons_iff, List.exists_mem_cons_iff, ih]
    simp only [Run.Records, first.perm.mem_iff]

theorem pivot_reordered {runs runs' : List Run}
    (reordered : List.Forall₂ Run.Reordered runs runs') : pivot runs' = pivot runs := by
  have rows : row runs' = row runs := funext fun name => row_congr (map_cell_reordered reordered name)
  rw [pivot, pivot, rows, names_congr fun name => exists_records_reordered reordered]

end Pivot

/-! ### A further run -/

theorem Row.SameFigures.of_records {row row' : Row} (records : row'.records = row.records) :
    row.SameFigures row' := by
  have tally : row'.tally = row.tally := congrArg Tally.ofRecords records
  have outcomes : row'.outcomes = row.outcomes := by rw [Row.outcomes, Row.outcomes, records]
  have total : row'.totalRuns = row.totalRuns := congrArg Tally.totalRuns tally
  have passes : row'.passCount = row.passCount := congrArg Tally.passCount tally
  have failures : row'.failCount = row.failCount := congrArg Tally.failCount tally
  have rate : row'.passRate = row.passRate := by rw [Row.passRate, Row.passRate, passes, total]
  have runtime : row'.totalRuntime = row.totalRuntime := congrArg Tally.totalRuntime tally
  have flaky : row'.isFlaky = row.isFlaky := by
    rw [Row.isFlaky, Row.isFlaky, total, passes, failures]
  exact {
    totalRuns := total
    passCount := passes
    failCount := failures
    skipCount := congrArg Tally.skipCount tally
    passRate := rate
    totalRuntime := runtime
    averageRuntime := by rw [Row.averageRuntime, Row.averageRuntime, total, runtime]
    minRuntime := by rw [Row.minRuntime, Row.minRuntime, total, tally]
    maxRuntime := congrArg Tally.maxRuntime tally
    isFlaky := flaky
    isAlwaysFailing := by rw [Row.isAlwaysFailing, Row.isAlwaysFailing, total, failures]
    flakiness := by rw [Row.flakiness, Row.flakiness, flaky, rate]
    pattern := by rw [Row.pattern, Row.pattern, flaky, outcomes] }

theorem Row.CountsOneMore.of_outcomes {row row' : Row} {outcome : Outcome} {front back : List Outcome}
    (without : row.outcomes = front ++ back) (added : row'.outcomes = front ++ outcome :: back) :
    row.CountsOneMore row' outcome := by
  have counts : ∀ o, row'.outcomes.count o = row.outcomes.count o + if outcome = o then 1 else 0 := by
    intro o
    rw [without, added, List.count_append, List.count_append, List.count_cons, Nat.add_assoc]
    simp only [beq_iff_eq]
  constructor
  case totalRuns =>
    rw [Row.totalRuns_eq, Row.totalRuns_eq, without, added, List.length_append, List.length_append,
      List.length_cons, Nat.add_assoc]
  case passCount => rw [Row.passCount_eq, Row.passCount_eq, counts]
  case failCount => rw [Row.failCount_eq, Row.failCount_eq, counts]
  case skipCount => rw [Row.skipCount_eq, Row.skipCount_eq, counts]

namespace Pivot

theorem insertIdx_length_append {α : Type} (front back : List α) (a : α) :
    (front ++ back).insertIdx front.length a = front ++ a :: back := by
  induction front with
  | nil => rfl
  | cons b front ih =>
    rw [List.cons_append, List.length_cons, List.insertIdx_succ_cons, ih, List.cons_append]

section

variable (newer : List Run) (extra : Run) (older : List Run)

theorem row_added_cells (name : String) :
    (row (newer ++ extra :: older) name).cells =
      (row (newer ++ older) name).cells.insertIdx newer.length (cell name extra) := by
  rw [row_cells, row_cells, List.map_append, List.map_append, List.map_cons,
    ← List.length_map (cell name), insertIdx_length_append]

theorem names_added (name : String) :
    name ∈ names (newer ++ extra :: older) ↔
      name ∈ names (newer ++ older) ∨ extra.Records name := by
  simp only [mem_names, List.mem_append, List.mem_cons]
  grind

theorem records_row_append (name : String) :
    (row (newer ++ older) name).records =
      (row newer name).records ++ (row older name).records := by
  rw [records_row, records_row, records_row, List.filterMap_append]

theorem records_row_absent {name : String} (absent : ¬ extra.Records name) :
    (row (extra :: older) name).records = (row older name).records := by
  rw [records_row, records_row, List.filterMap_cons, lastRecord_eq_none.mpr absent]

theorem records_row_recorded {name : String} {t : TestRecord} (last : extra.LastRecord name t) :
    (row (extra :: older) name).records = t :: (row older name).records := by
  rw [records_row, records_row, List.filterMap_cons, lastRecord_eq_some_iff.mpr last]

theorem records_row_lacking {runs : List Run} {name : String}
    (lacking : ∀ run ∈ runs, ¬ run.Records name) : (row runs name).records = [] := by
  rw [records_row, List.filterMap_eq_nil_iff]
  exact fun run member => lastRecord_eq_none.mpr (lacking run member)

theorem outcomes_added {name : String} {t : TestRecord} (last : extra.LastRecord name t) :
    (row (newer ++ extra :: older) name).outcomes =
      (row newer name).outcomes ++ t.state.outcome :: (row older name).outcomes := by
  rw [Row.outcomes, records_row_append, records_row_recorded _ _ last, List.map_append, List.map_cons]
  rfl

theorem countsOneMore_added {name : String} {t : TestRecord} (last : extra.LastRecord name t) :
    (row (newer ++ older) name).CountsOneMore (row (newer ++ extra :: older) name)
      t.state.outcome := by
  refine .of_outcomes ?_ (outcomes_added newer extra older last)
  rw [Row.outcomes, records_row_append, List.map_append]
  rfl

theorem row_added_absent {name : String} (absent : ¬ extra.Records name) :
    row (newer ++ extra :: older) name =
      (row (newer ++ older) name).withCell newer.length ⟨extra.id, none⟩ := by
  have empty : (cell name extra).record = none := lastRecord_eq_none.mpr absent
  -- The search for the leaf passes over the empty cell.
  have first : ((newer ++ extra :: older).map (cell name)).findSome? Cell.record =
      ((newer ++ older).map (cell name)).findSome? Cell.record := by
    rw [List.map_append, List.map_append, List.map_cons, List.findSome?_append,
      List.findSome?_append, List.findSome?_cons, empty]
  have cells := row_added_cells newer extra older name
  rw [row_cells, row_cells] at cells
  have added : cell name extra = ⟨extra.id, none⟩ := by rw [← empty]; rfl
  rw [added] at cells
  unfold row
  dsimp only
  rw [first, cells]
  split <;> rfl

theorem addsRun : AddsRun newer extra older where
  names name := by
    rw [(testNames_perm _).mem_iff, (testNames_perm _).mem_iff, names_added]
  absent row member lacks := by
    obtain ⟨name, present, rfl⟩ := mem_pivot.mp member
    rw [row_testName] at lacks
    rw [← row_added_absent newer extra older lacks]
    exact ⟨mem_pivot.mpr ⟨name, (names_added ..).mpr (Or.inl present), rfl⟩,
      .of_records (by
        rw [records_row_append, records_row_append, records_row_absent extra older lacks])⟩
  recorded row member t last := by
    obtain ⟨name, present, rfl⟩ := mem_pivot.mp member
    rw [row_testName] at last
    have found : cell name extra = ⟨extra.id, some t⟩ := by
      rw [cell, lastRecord_eq_some_iff.mpr last]
    refine ⟨_, mem_pivot.mpr ⟨name, (names_added ..).mpr (Or.inl present), rfl⟩, ?_, ?_,
      countsOneMore_added newer extra older last⟩
    · rw [row_testName, row_testName]
    · rw [row_added_cells, found]
  first name t lacking last := by
    refine ⟨_, mem_pivot.mpr ⟨name, (names_added ..).mpr (Or.inr last.records), rfl⟩,
      row_testName _ name, ?_⟩
    rw [outcomes_added newer extra older last, Row.outcomes, Row.outcomes,
      records_row_lacking fun run member => lacking run (List.mem_append_left older member),
      records_row_lacking fun run member => lacking run (List.mem_append_right newer member)]
    rfl

end

theorem isFlaky_added {runs more : List Run} (added : runs.Sublist more) {name : String}
    (flaky : (row runs name).isFlaky = true) : (row more name).isFlaky = true := by
  have kept : (row runs name).outcomes ⊆ (row more name).outcomes := by
    rw [outcomes_row, outcomes_row]
    exact (added.filterMap _).subset
  obtain ⟨passed, failed⟩ := Row.isFlaky_iff.mp flaky
  exact Row.isFlaky_iff.mpr ⟨kept passed, kept failed⟩

end Pivot

/-- The rows of a pivot are made test by test, whatever the runs. -/
theorem pivot_foldsByTest (runs : List Run) : FoldsByTest runs where
  alone kept := Pivot.pivot_keep kept runs
  reordered _ := Pivot.pivot_reordered
  added newer extra older _ := Pivot.addsRun newer extra older
  flaky more added row member flaky := by
    obtain ⟨name, present, rfl⟩ := mem_pivot.mp member
    obtain ⟨run, memRun, records⟩ := Pivot.mem_names.mp present
    refine ⟨_, mem_pivot.mpr ⟨name, Pivot.mem_names.mpr ⟨run, added.subset memRun, records⟩, rfl⟩,
      ?_, Pivot.isFlaky_added added flaky⟩
    rw [Pivot.row_testName, Pivot.row_testName]

/-! ### A run added to two others -/

namespace Mixed

def older : Run :=
  .bare "1" [.bare "t" .failed]

def newer : Run :=
  .bare "2" [.bare "t" .passed, .bare "u" .failed]

def runs : List Run :=
  [newer, older]

/-- The records of the newer run in the other order. -/
def swapped : List Run :=
  [.bare "2" [.bare "u" .failed, .bare "t" .passed], older]

def latest : Run :=
  .bare "3" [.bare "t" .failed]

theorem reordered : List.Forall₂ Run.Reordered runs swapped := by
  have same (run : Run) (distinct : (run.tests.map TestRecord.fullName).Nodup) :
      run.Reordered run := ⟨distinct, .refl _, rfl⟩
  refine .cons ⟨by decide, ?_, rfl⟩ (.cons (same _ (by decide)) .nil)
  exact .swap ..

theorem row_mem {name : String} (recorded : newer.Records name) :
    Pivot.row runs name ∈ pivot runs :=
  mem_pivot.mpr ⟨name, Pivot.mem_names.mpr ⟨_, List.mem_cons_self, recorded⟩, rfl⟩

theorem last : latest.LastRecord "t" (.bare "t" .failed) :=
  Pivot.lastRecord_eq_some_iff.mp rfl

theorem lacks : ¬ latest.Records "u" := by
  rintro ⟨t, member, named⟩
  obtain rfl := List.mem_singleton.mp member
  exact absurd named (by decide)

end Mixed

/-- Each way to edit the runs, once. -/
theorem foldsByTest_mixed :
    pivot (Mixed.runs.map (Run.keep (· = "t"))) =
        (pivot Mixed.runs).filter (fun row => row.testName = "t") ∧
      pivot Mixed.swapped = pivot Mixed.runs ∧
      (∃ row' ∈ pivot (Mixed.latest :: Mixed.runs), row'.testName = "t" ∧
        (Pivot.row Mixed.runs "t").CountsOneMore row' .failed) ∧
      (Pivot.row Mixed.runs "u").withCell 0 ⟨"3", none⟩ ∈ pivot (Mixed.latest :: Mixed.runs) ∧
      ∃ row' ∈ pivot (Mixed.latest :: Mixed.runs), row'.testName = "t" ∧ row'.isFlaky = true := by
  have folds := pivot_foldsByTest Mixed.runs
  have adds : AddsRun [] Mixed.latest Mixed.runs := folds.added [] Mixed.latest Mixed.runs rfl
  have first : Pivot.row Mixed.runs "t" ∈ pivot Mixed.runs :=
    Mixed.row_mem ⟨_, List.mem_cons_self, rfl⟩
  have second : Pivot.row Mixed.runs "u" ∈ pivot Mixed.runs :=
    Mixed.row_mem ⟨_, .tail _ List.mem_cons_self, rfl⟩
  refine ⟨folds.alone _, folds.reordered _ Mixed.reordered, ?_, ?_, ?_⟩
  · obtain ⟨row', member, named, -, counts⟩ := adds.recorded _ first _ Mixed.last
    exact ⟨row', member, named, counts⟩
  · exact (adds.absent _ second Mixed.lacks).1
  · have flaky : (Pivot.row Mixed.runs "t").isFlaky = true := by decide +kernel
    exact folds.flaky _ (List.sublist_cons_self ..) _ first flaky

end TestHistory
