import TestHistory.Proofs.Pivot
import TestHistory.Proofs.ScannedRuns

/-!
# What a run is read from

`readRun_eq_ok_iff` opens a run that was read into its parts. Its tests have distinct names
(`nodup_tests_of_read`), whatever specs the report repeats: a record takes the place of the one
that has its name.
-/

namespace TestHistory

/-- The metadata and the report decide whether there is a run; all else goes into the run. -/
theorem readRun_value (fs : FileSystem) (dir root : Path) (options : ScanOptions) :
    (readRun fs dir root options).value = (readMetadata fs dir).bind fun metadata =>
      (readReport fs dir).map fun report =>
        assembleRun fs dir metadata (readTests fs dir root options report).value
          (readConsoleLog fs (consoleLogPath dir) options.consoleLogMaxLines).value := by
  unfold readRun
  cases readMetadata fs dir with
  | error e => rfl
  | ok metadata =>
    cases readReport fs dir with
    | error e => rfl
    | ok report => rfl

theorem readRun_eq_ok_iff {fs : FileSystem} {dir root : Path} {options : ScanOptions} {run : Run} :
    (readRun fs dir root options).value = .ok run ↔ ∃ metadata report,
      readMetadata fs dir = .ok metadata ∧ readReport fs dir = .ok report ∧
        run = assembleRun fs dir metadata (readTests fs dir root options report).value
          (readConsoleLog fs (consoleLogPath dir) options.consoleLogMaxLines).value := by
  rw [readRun_value]
  cases readMetadata fs dir with
  | error e => simp [Except.bind]
  | ok metadata =>
    cases readReport fs dir with
    | error e => simp [Except.bind, Except.map]
    | ok report => simp [Except.bind, Except.map, eq_comm]

/-! ### Placing records -/

theorem TestRecord.map_fullName_place (new : TestRecord) (tests : List TestRecord) :
    (new.place tests).map fullName =
      if new.fullName ∈ tests.map fullName then tests.map fullName
      else tests.map fullName ++ [new.fullName] := by
  induction tests with
  | nil => simp [place]
  | cons t tests ih =>
    unfold place
    by_cases same : t.fullName = new.fullName
    · simp [same]
    · rw [if_neg same, List.map_cons, List.map_cons, ih]
      have later : new.fullName ∈ t.fullName :: tests.map fullName ↔
          new.fullName ∈ tests.map fullName := by
        simp [Ne.symm same]
      simp only [later]
      split <;> rfl

theorem TestRecord.nodup_place (new : TestRecord) {tests : List TestRecord}
    (distinct : (tests.map fullName).Nodup) : ((new.place tests).map fullName).Nodup := by
  rw [map_fullName_place]
  split
  · exact distinct
  · rename_i absent
    rw [← List.concat_eq_append]
    exact distinct.concat absent

/-- The records of specs, one after the other. -/
def recordsOf (artifact : Spec → Option Artifact) (specs : List Spec) : List TestRecord :=
  specs.foldl (fun tests spec => (spec.toRecord (artifact spec)).place tests) []

theorem extractTests_value (source : ArtifactSource) (suites : List Suite) :
    (extractTests source suites).value = recordsOf
      (fun spec => (source.index.load source.files spec.fullName source.root source.options).value)
      (testSpecs suites) := by
  rw [extractTests, Logged.value_foldlM, recordsOf]
  congr 1
  funext tests spec
  unfold addSpec
  rw [Logged.value_bind]
  split <;> rfl

theorem nodup_foldl_place (record : Spec → TestRecord) (specs : List Spec)
    {tests : List TestRecord} (distinct : (tests.map TestRecord.fullName).Nodup) :
    ((specs.foldl (fun tests spec => (record spec).place tests) tests).map
      TestRecord.fullName).Nodup := by
  induction specs generalizing tests with
  | nil => exact distinct
  | cons spec specs ih => exact ih (TestRecord.nodup_place _ distinct)

/-- A report that repeats specs still gives tests with distinct names. -/
theorem nodup_tests_of_read {fs : FileSystem} {dir root : Path} {options : ScanOptions} {run : Run}
    (read : (readRun fs dir root options).value = .ok run) :
    (run.tests.map TestRecord.fullName).Nodup := by
  obtain ⟨metadata, report, -, -, rfl⟩ := readRun_eq_ok_iff.mp read
  change ((readTests fs dir root options report).value.map TestRecord.fullName).Nodup
  simp only [readTests, Logged.value_bind, extractTests_value]
  exact nodup_foldl_place _ _ List.nodup_nil

end TestHistory
