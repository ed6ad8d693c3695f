import Mathlib.Data.Finset.Card
import TestHistory.Analysis.Comparison
import TestHistory.Proofs.RowFigures

/-!
# Comparing two runs

A comparison reads the rows of all runs but speaks of two. `ComparesRuns` says what it holds in
terms of the records of the runs, and `compareRuns_spec` that it does so for any two of them.
-/

namespace TestHistory

def Run.testNames (run : Run) : Finset String :=
  (run.tests.map TestRecord.fullName).toFinset

def ComparedTest.name (t : ComparedTest) : String :=
  t.row.testName

def compareRuns (runs : List Run) (base head : Run) : Comparison :=
  Comparison.ofRows (pivot runs) base.id head.id

/-- A list of a comparison has the tests of a kind, each one once and in the order of the rows,
with their records in the two runs. -/
structure ListsTests (rows : List Row) (base head : Run) (tests : List ComparedTest)
    (kind : String → Prop) : Prop where
  order : (tests.map ComparedTest.row).Sublist rows
  nodup : (tests.map ComparedTest.name).Nodup
  records : ∀ t ∈ tests, base.LastRecord t.name t.base ∧ head.LastRecord t.name t.head
  names : ∀ name, name ∈ tests.map ComparedTest.name ↔ kind name

/-- Two runs or more in which the test failed, and one in which it passed. -/
def FlakyFailure (runs : List Run) (name : String) : Prop :=
  (∃ run ∈ runs, run.Ended name .passed) ∧
    ∃ first ∈ runs, ∃ second ∈ runs, first.id ≠ second.id ∧
      first.Ended name .failed ∧ second.Ended name .failed

/-- What the comparison of two runs holds. -/
structure ComparesRuns (runs : List Run) (base head : Run) : Prop where
  compared : (compareRuns runs base head).testsCompared = (base.testNames ∩ head.testNames).card
  newFailures : ListsTests (pivot runs) base head (compareRuns runs base head).newFailures
    fun name => base.Ended name .passed ∧ head.Ended name .failed
  fixed : ListsTests (pivot runs) base head (compareRuns runs base head).fixed
    fun name => base.Ended name .failed ∧ head.Ended name .passed
  regressions : ListsTests (pivot runs) base head (compareRuns runs base head).regressions
    fun name => base.Records name ∧ head.Ended name .failed ∧ FlakyFailure runs name
  swapCompared : (compareRuns runs head base).testsCompared =
    (compareRuns runs base head).testsCompared
  swapNewFailures : (compareRuns runs head base).newFailures.map ComparedTest.name =
    (compareRuns runs base head).fixed.map ComparedTest.name
  swapFixed : (compareRuns runs head base).fixed.map ComparedTest.name =
    (compareRuns runs base head).newFailures.map ComparedTest.name
  /-- Taking a third run away changes neither the count nor the names of these two lists. -/
  others : ∀ newer other older, runs = newer ++ other :: older →
    base ∈ newer ++ older → head ∈ newer ++ older →
    (compareRuns (newer ++ older) base head).testsCompared =
        (compareRuns runs base head).testsCompared ∧
      (∀ name, name ∈ (compareRuns (newer ++ older) base head).newFailures.map ComparedTest.name ↔
        name ∈ (compareRuns runs base head).newFailures.map ComparedTest.name) ∧
      ∀ name, name ∈ (compareRuns (newer ++ older) base head).fixed.map ComparedTest.name ↔
        name ∈ (compareRuns runs base head).fixed.map ComparedTest.name

/-! ### Records by run -/

theorem Run.mem_testNames {run : Run} {name : String} : name ∈ run.testNames ↔ run.Records name := by
  simp [testNames, Records]

theorem find?_id {runs : List Run} {run : Run} (ids : (runs.map Run.id).Nodup)
    (member : run ∈ runs) : runs.find? (fun r => r.id = run.id) = some run :=
  (Keyed.find?_eq_some_iff_mem ids).mpr ⟨member, rfl⟩

theorem recordOf_row {runs : List Run} {run : Run} (ids : (runs.map Run.id).Nodup)
    (member : run ∈ runs) (name : String) :
    (Pivot.row runs name).recordOf run.id = Pivot.lastRecord name run.tests := by
  rw [Row.recordOf, Pivot.row_cells, List.find?_map]
  change ((runs.find? fun r => r.id = run.id).map (Pivot.cell name)).bind Cell.record = _
  rw [find?_id ids member]
  rfl

/-! ### Flaky failures -/

/-- Of elements with distinct keys, two satisfy a predicate if it counts two. -/
theorem one_lt_countP_iff {α : Type} {l : List α} {p : α → Bool} {key : α → String}
    (distinct : (l.map key).Nodup) :
    1 < l.countP p ↔ ∃ a ∈ l, ∃ b ∈ l, key a ≠ key b ∧ p a = true ∧ p b = true := by
  -- Both directions look at how many elements the filter keeps.
  rw [List.countP_eq_length_filter]
  constructor
  · intro long
    match same : l.filter p with
    | [] => simp [same] at long
    | [a] => simp [same] at long
    | a :: b :: rest =>
      have kept := distinct.sublist ((List.filter_sublist (p := p)).map key)
      rw [same, List.map_cons, List.nodup_cons] at kept
      have memA : a ∈ l.filter p := by simp [same]
      have memB : b ∈ l.filter p := by simp [same]
      rw [List.mem_filter] at memA memB
      refine ⟨a, memA.1, b, memB.1, ?_, memA.2, memB.2⟩
      intro equal
      exact kept.1 (by simp [equal])
  · rintro ⟨a, memA, b, memB, different, holdsA, holdsB⟩
    have keptA : a ∈ l.filter p := List.mem_filter.mpr ⟨memA, holdsA⟩
    have keptB : b ∈ l.filter p := List.mem_filter.mpr ⟨memB, holdsB⟩
    match same : l.filter p with
    | [] => simp [same] at keptA
    | [c] =>
      rw [same, List.mem_singleton] at keptA keptB
      exact absurd (by rw [keptA, keptB]) different
    | c :: d :: rest => simp

theorem flakyFailure_iff {runs : List Run} (ids : (runs.map Run.id).Nodup) {name : String} :
    FlakyFailure runs name ↔
      (Pivot.row runs name).isFlaky = true ∧ 1 < (Pivot.row runs name).failCount := by
  have twice : 1 < (Pivot.row runs name).failCount ↔ ∃ first ∈ runs, ∃ second ∈ runs,
      first.id ≠ second.id ∧ first.Ended name .failed ∧ second.Ended name .failed := by
    rw [Row.failCount_eq, count_outcomes_row, one_lt_countP_iff ids]
    simp only [hasOutcome_failed]
  have once : .passed ∈ (Pivot.row runs name).outcomes ↔ ∃ run ∈ runs, run.Ended name .passed := by
    rw [← List.count_pos_iff, count_outcomes_row, List.countP_pos_iff]
    simp only [hasOutcome_passed]
  rw [FlakyFailure, ← twice, ← once, Row.isFlaky_iff]
  constructor
  · rintro ⟨passed, failed⟩
    have pos : 0 < (Pivot.row runs name).outcomes.count .failed := by
      rw [← Row.failCount_eq]
      omega
    exact ⟨⟨passed, List.count_pos_iff.mp pos⟩, failed⟩
  · rintro ⟨⟨passed, -⟩, failed⟩
    exact ⟨passed, failed⟩

/-! ### Tests that both runs have -/

theorem ofRow_eq_some {baseId headId : String} {row : Row} {t : ComparedTest} :
    ComparedTest.ofRow baseId headId row = some t ↔
      t.row = row ∧ row.recordOf baseId = some t.base ∧ row.recordOf headId = some t.head := by
  obtain ⟨row', base, head⟩ := t
  unfold ComparedTest.ofRow
  cases row.recordOf baseId <;> cases row.recordOf headId <;> simp [eq_comm]

theorem map_row_sublist (baseId headId : String) (rows : List Row) :
    ((rows.filterMap (ComparedTest.ofRow baseId headId)).map ComparedTest.row).Sublist rows :=
  Keyed.map_filterMap_sublist rows fun _ _ compared => (ofRow_eq_some.mp compared).1

def comparedTests (runs : List Run) (base head : Run) : List ComparedTest :=
  (pivot runs).filterMap (ComparedTest.ofRow base.id head.id)

section

variable {runs : List Run} {base head : Run} (ids : (runs.map Run.id).Nodup)
  (memBase : base ∈ runs) (memHead : head ∈ runs)

include ids memBase memHead

theorem mem_comparedTests {t : ComparedTest} :
    t ∈ comparedTests runs base head ↔ t.row = Pivot.row runs t.name ∧
      base.LastRecord t.name t.base ∧ head.LastRecord t.name t.head := by
  rw [comparedTests, List.mem_filterMap]
  constructor
  · rintro ⟨row, member, compared⟩
    obtain ⟨rfl, inBase, inHead⟩ := ofRow_eq_some.mp compared
    obtain ⟨name, -, same⟩ := mem_pivot.mp member
    have named : t.name = name := by rw [ComparedTest.name, ← same, Pivot.row_testName]
    rw [← same, recordOf_row ids memBase, Pivot.lastRecord_eq_some_iff] at inBase
    rw [← same, recordOf_row ids memHead, Pivot.lastRecord_eq_some_iff] at inHead
    rw [named]
    exact ⟨same.symm, inBase, inHead⟩
  · rintro ⟨same, inBase, inHead⟩
    have present : t.name ∈ Pivot.names runs := Pivot.mem_names.mpr ⟨base, memBase, inBase.records⟩
    refine ⟨_, mem_pivot.mpr ⟨t.name, present, rfl⟩, ofRow_eq_some.mpr ⟨same, ?_, ?_⟩⟩
    · rw [recordOf_row ids memBase, Pivot.lastRecord_eq_some_iff]
      exact inBase
    · rw [recordOf_row ids memHead, Pivot.lastRecord_eq_some_iff]
      exact inHead

/-- A list is right when its kind is what the filter says of the two records. -/
theorem listsTests_filter {p : ComparedTest → Bool} {kind : String → Prop}
    (sound : ∀ t, base.LastRecord t.name t.base → head.LastRecord t.name t.head →
      t.row = Pivot.row runs t.name → p t = true → kind t.name)
    (complete : ∀ name, kind name → ∃ t ∈ comparedTests runs base head, t.name = name ∧ p t = true) :
    ListsTests (pivot runs) base head ((comparedTests runs base head).filter p) kind where
  order := (List.filter_sublist.map _).trans (map_row_sublist ..)
  nodup := by
    have kept := (List.filter_sublist (p := p)).map ComparedTest.row |>.trans
      (map_row_sublist base.id head.id (pivot runs))
    have named := (kept.map Row.testName).nodup (nodup_testNames runs)
    rwa [List.map_map] at named
  records t member :=
    ((mem_comparedTests ids memBase memHead).mp (List.mem_filter.mp member).1).2
  names name := by
    rw [List.mem_map]
    constructor
    · rintro ⟨t, member, rfl⟩
      obtain ⟨compared, holds⟩ := List.mem_filter.mp member
      obtain ⟨same, inBase, inHead⟩ := (mem_comparedTests ids memBase memHead).mp compared
      exact sound t inBase inHead same holds
    · intro h
      obtain ⟨t, compared, named, holds⟩ := complete name h
      exact ⟨t, List.mem_filter.mpr ⟨compared, holds⟩, named⟩

theorem exists_comparedTest {name : String} {a b : TestRecord} (inBase : base.LastRecord name a)
    (inHead : head.LastRecord name b) :
    ∃ t ∈ comparedTests runs base head, t.name = name ∧ t.base = a ∧ t.head = b := by
  have named : (ComparedTest.mk (Pivot.row runs name) a b).name = name := Pivot.row_testName runs name
  refine ⟨⟨Pivot.row runs name, a, b⟩, ?_, named, rfl, rfl⟩
  rw [mem_comparedTests ids memBase memHead, named]
  exact ⟨rfl, inBase, inHead⟩

/-- Tests by their states in the two runs. -/
theorem listsTests_states {p : ComparedTest → Bool} {s s' : TestState}
    (kind : ∀ t, p t = true ↔ t.base.state = s ∧ t.head.state = s') :
    ListsTests (pivot runs) base head ((comparedTests runs base head).filter p)
      fun name => base.Ended name s ∧ head.Ended name s' := by
  refine listsTests_filter ids memBase memHead ?_ ?_
  · intro t inBase inHead _ holds
    obtain ⟨stateBase, stateHead⟩ := (kind t).mp holds
    exact ⟨⟨t.base, inBase, stateBase⟩, ⟨t.head, inHead, stateHead⟩⟩
  · rintro name ⟨⟨a, inBase, stateBase⟩, ⟨b, inHead, stateHead⟩⟩
    obtain ⟨t, compared, named, rfl, rfl⟩ := exists_comparedTest ids memBase memHead inBase inHead
    exact ⟨t, compared, named, (kind t).mpr ⟨stateBase, stateHead⟩⟩

theorem listsTests_newFailures :
    ListsTests (pivot runs) base head (compareRuns runs base head).newFailures
      fun name => base.Ended name .passed ∧ head.Ended name .failed :=
  listsTests_states ids memBase memHead fun t => by
    simp [ComparedTest.isNewFailure, TestState.isPassed, TestState.isFailed]

theorem listsTests_fixed :
    ListsTests (pivot runs) base head (compareRuns runs base head).fixed
      fun name => base.Ended name .failed ∧ head.Ended name .passed :=
  listsTests_states ids memBase memHead fun t => by
    simp [ComparedTest.isFixed, TestState.isPassed, TestState.isFailed]

theorem listsTests_regressions :
    ListsTests (pivot runs) base head (compareRuns runs base head).regressions
      fun name => base.Records name ∧ head.Ended name .failed ∧ FlakyFailure runs name := by
  refine listsTests_filter ids memBase memHead ?_ ?_
  · intro t inBase inHead same holds
    simp only [ComparedTest.isRegression, TestState.isFailed, Bool.and_eq_true,
      decide_eq_true_eq] at holds
    obtain ⟨⟨flaky, failed⟩, twice⟩ := holds
    rw [same] at flaky twice
    exact ⟨inBase.records, ⟨t.head, inHead, failed⟩, (flakyFailure_iff ids).mpr ⟨flaky, twice⟩⟩
  · rintro name ⟨recorded, ⟨b, inHead, failed⟩, flakyFailure⟩
    obtain ⟨a, inBase⟩ := recorded.exists_last
    obtain ⟨t, compared, named, rfl, rfl⟩ := exists_comparedTest ids memBase memHead inBase inHead
    have same := ((mem_comparedTests ids memBase memHead).mp compared).1
    obtain ⟨flaky, twice⟩ := (flakyFailure_iff ids).mp flakyFailure
    rw [← named, ← same] at flaky twice
    refine ⟨t, compared, named, ?_⟩
    simp [ComparedTest.isRegression, TestState.isFailed, flaky, failed, twice]

theorem testsCompared_eq :
    (compareRuns runs base head).testsCompared = (base.testNames ∩ head.testNames).card := by
  have all : ListsTests (pivot runs) base head ((comparedTests runs base head).filter fun _ => true)
      fun name => base.Records name ∧ head.Records name := by
    refine listsTests_filter ids memBase memHead ?_ ?_
    · exact fun t inBase inHead _ _ => ⟨inBase.records, inHead.records⟩
    · rintro name ⟨recordedBase, recordedHead⟩
      obtain ⟨a, inBase⟩ := recordedBase.exists_last
      obtain ⟨b, inHead⟩ := recordedHead.exists_last
      obtain ⟨t, compared, named, -, -⟩ := exists_comparedTest ids memBase memHead inBase inHead
      exact ⟨t, compared, named, rfl⟩
  rw [List.filter_true] at all
  have same : ((comparedTests runs base head).map ComparedTest.name).toFinset =
      base.testNames ∩ head.testNames := by
    ext name
    rw [List.mem_toFinset, all.names, Finset.mem_inter, Run.mem_testNames, Run.mem_testNames]
  rw [← same, List.toFinset_card_of_nodup all.nodup, List.length_map]
  rfl

end

/-! ### The other way round -/

def ComparedTest.swap (t : ComparedTest) : ComparedTest :=
  ⟨t.row, t.head, t.base⟩

theorem comparedTests_swap (runs : List Run) (base head : Run) :
    comparedTests runs head base = (comparedTests runs base head).map ComparedTest.swap := by
  unfold comparedTests
  rw [List.map_filterMap]
  congr 1
  funext row
  unfold ComparedTest.ofRow
  cases row.recordOf head.id <;> cases row.recordOf base.id <;> rfl

theorem newFailures_swap (runs : List Run) (base head : Run) :
    (compareRuns runs head base).newFailures =
      (compareRuns runs base head).fixed.map ComparedTest.swap := by
  change (comparedTests runs head base).filter _ = ((comparedTests runs base head).filter _).map _
  rw [comparedTests_swap, List.filter_map]
  congr 2
  funext t
  exact Bool.and_comm ..

theorem testsCompared_swap (runs : List Run) (base head : Run) :
    (compareRuns runs head base).testsCompared = (compareRuns runs base head).testsCompared := by
  change (comparedTests runs head base).length = (comparedTests runs base head).length
  rw [comparedTests_swap, List.length_map]

theorem names_newFailures_swap (runs : List Run) (base head : Run) :
    (compareRuns runs head base).newFailures.map ComparedTest.name =
      (compareRuns runs base head).fixed.map ComparedTest.name := by
  rw [newFailures_swap, List.map_map]
  rfl

/-! ### Two runs of a list -/

/-- The comparison of two runs of a list, whose ids are distinct, speaks of just these two. -/
theorem compareRuns_spec {runs : List Run} (ids : (runs.map Run.id).Nodup) {base head : Run}
    (memBase : base ∈ runs) (memHead : head ∈ runs) : ComparesRuns runs base head where
  compared := testsCompared_eq ids memBase memHead
  newFailures := listsTests_newFailures ids memBase memHead
  fixed := listsTests_fixed ids memBase memHead
  regressions := listsTests_regressions ids memBase memHead
  swapCompared := testsCompared_swap runs base head
  swapNewFailures := names_newFailures_swap runs base head
  swapFixed := (names_newFailures_swap runs head base).symm
  others newer other older whole memBase' memHead' := by
    subst whole
    -- Counts and names depend on the two runs alone, so both lists of runs give the same.
    have fewer : ((newer ++ older).map Run.id).Nodup :=
      ids.sublist (((List.sublist_cons_self other older).append_left newer).map Run.id)
    refine ⟨?_, fun name => ?_, fun name => ?_⟩
    · rw [testsCompared_eq fewer memBase' memHead', testsCompared_eq ids memBase memHead]
    · rw [(listsTests_newFailures fewer memBase' memHead').names,
        (listsTests_newFailures ids memBase memHead).names]
    · rw [(listsTests_fixed fewer memBase' memHead').names,
        (listsTests_fixed ids memBase memHead).names]

namespace Sample

def head : Run := .bare "3" [.bare "x" .failed, .bare "y" .passed]
def base : Run := .bare "2" [.bare "x" .passed, .bare "y" .failed, .bare "z" .passed]
def oldest : Run := .bare "1" [.bare "x" .failed]

theorem compareRuns_sample : ([head, base, oldest].map Run.id).Nodup ∧
    base ∈ [head, base, oldest] ∧ head ∈ [head, base, oldest] ∧
    ComparesRuns [head, base, oldest] base head ∧
    (compareRuns [head, base, oldest] base head).testsCompared = 2 ∧
    "x" ∈ (compareRuns [head, base, oldest] base head).regressions.map ComparedTest.name := by
  have ids : ([head, base, oldest].map Run.id).Nodup := by decide
  have memBase : base ∈ [head, base, oldest] := by simp
  have memHead : head ∈ [head, base, oldest] := by simp
  have spec := compareRuns_spec ids memBase memHead
  have recorded : base.Records "x" := ⟨_, List.mem_cons_self, rfl⟩
  have passed : base.Ended "x" .passed := ⟨_, ⟨[], _, rfl, rfl, by decide⟩, rfl⟩
  have failed : head.Ended "x" .failed := ⟨_, ⟨[], _, rfl, rfl, by decide⟩, rfl⟩
  have failedBefore : oldest.Ended "x" .failed := ⟨_, ⟨[], _, rfl, rfl, by decide⟩, rfl⟩
  refine ⟨ids, memBase, memHead, spec, spec.compared.trans (by decide), ?_⟩
  rw [spec.regressions.names]
  exact ⟨recorded, failed, ⟨base, memBase, passed⟩, head, memHead, oldest,
    by simp, by decide, failed, failedBefore⟩

end Sample

end TestHistory
