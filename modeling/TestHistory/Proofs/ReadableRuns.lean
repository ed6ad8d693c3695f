import TestHistory.Proofs.RegularTrees
import TestHistory.Proofs.RunConfinement

/-!
# Which run directories can be read

Two files decide whether a directory holds a run (`readRun_succeeds_iff`). The artifacts and the
console log never do: they only fill fields of the run (`readRun_outsideArtifacts`,
`readRun_outsideLog`).
-/

namespace TestHistory

/-! ### What has to be there -/

/-- A file of UTF-8 text stands at a path. -/
def FileSystem.HoldsText (fs : FileSystem) (path : Path) (text : String) : Prop :=
  ∃ content modified, fs.entryOf? path = some (.file content modified) ∧
    String.fromUTF8? content = some text

/-- A report is a list of suites or no list at all. -/
def IsReport (value : Json.Value) : Prop :=
  (∀ items, value ≠ .array items) ∨ ∃ suites, Suite.decodeAll value = some suites

/-- Both files that a run needs are there. -/
structure Readable (fs : FileSystem) (dir : Path) : Prop where
  metadata : ∃ text tree metadata, fs.HoldsText (runMetadataPath dir) text ∧
    Json.Tree.parse? text = some tree ∧ Metadata.decode tree = some metadata
  report : ∃ text value, fs.HoldsText (reportPath dir) text ∧
    Json.Value.parse? text = some value ∧ IsReport value

/-! ### What may differ -/

/-- The same stands outside the artifacts, and the same files directly among them. Subdirectories
of the artifacts, and all that is below them, may differ. -/
structure SameOutsideArtifacts (fs₁ fs₂ : FileSystem) (dir : Path) : Prop where
  outside : ∀ address, (∀ name rest, address ≠ "artifacts" :: name :: rest) →
    fs₁.held? dir address = fs₂.held? dir address
  files : ∀ name content modified,
    fs₁.held? dir ["artifacts", name] = some (.file content modified) ↔
      fs₂.held? dir ["artifacts", name] = some (.file content modified)

/-- The same stands everywhere but at the console log. -/
def SameOutsideLog (fs₁ fs₂ : FileSystem) (dir : Path) : Prop :=
  ∀ address, ¬ ["reports", "test-output.log"] <+: address →
    fs₁.held? dir address = fs₂.held? dir address

def TestRecord.withoutArtifact (t : TestRecord) : TestRecord :=
  { t with artifact := none }

def Run.withoutArtifacts (run : Run) : Run :=
  { run with tests := run.tests.map TestRecord.withoutArtifact }

def Run.withoutLog (run : Run) : Run :=
  { run with consoleLog := "" }

section

variable {fs fs₁ fs₂ : FileSystem} {dir root : Path} {options : ScanOptions}

/-! ### The three files of a run -/

theorem held?_artifactsDir (fs : FileSystem) (dir : Path) (address : List String) :
    fs.held? (artifactsDir dir) address = fs.held? dir ("artifacts" :: address) :=
  fs.held?_join dir (by decide) (by decide) address

theorem entryOf?_runMetadataPath (fs : FileSystem) (dir : Path) :
    fs.entryOf? (runMetadataPath dir) = if (FileSystem.refusal? (runMetadataPath dir)).isSome then none
      else fs.held? dir ["artifacts", "metadata.json"] := by
  rw [FileSystem.entryOf?_eq_held?, runMetadataPath, fs.held?_join _ (by decide) (by decide),
    held?_artifactsDir, metadataFile]

theorem entryOf?_reports (fs : FileSystem) (dir : Path) {name : String} (isName : Path.IsName name)
    (short : name.utf8ByteSize ≤ maxNameBytes) :
    fs.entryOf? ((dir.join "reports").join name) =
      if (FileSystem.refusal? ((dir.join "reports").join name)).isSome then none
      else fs.held? dir ["reports", name] := by
  rw [FileSystem.entryOf?_eq_held?, fs.held?_join _ isName short,
    fs.held?_join dir (by decide) (by decide)]

theorem entryOf?_reportPath (fs : FileSystem) (dir : Path) :
    fs.entryOf? (reportPath dir) = if (FileSystem.refusal? (reportPath dir)).isSome then none
      else fs.held? dir ["reports", "report.json"] :=
  entryOf?_reports fs dir (by decide) (by decide)

theorem entryOf?_consoleLogPath (fs : FileSystem) (dir : Path) :
    fs.entryOf? (consoleLogPath dir) = if (FileSystem.refusal? (consoleLogPath dir)).isSome then none
      else fs.held? dir ["reports", "test-output.log"] :=
  entryOf?_reports fs dir (by decide) (by decide)

/-! ### Success -/

theorem readMetadata_succeeds_iff : (∃ metadata, readMetadata fs dir = .ok metadata) ↔
    ∃ text tree metadata, fs.HoldsText (runMetadataPath dir) text ∧
      Json.Tree.parse? text = some tree ∧ Metadata.decode tree = some metadata := by
  unfold readMetadata
  constructor
  · rintro ⟨metadata, decoded⟩
    split at decoded
    · exact nomatch decoded
    · rename_i text read
      split at decoded
      · rename_i found same
        obtain ⟨tree, parsed, found⟩ := Option.bind_eq_some_iff.mp same
        exact ⟨text, tree, _, FileSystem.readText_eq_ok_iff.mp read, parsed, found⟩
      · exact nomatch decoded
  · rintro ⟨text, tree, metadata, holds, parsed, decoded⟩
    refine ⟨metadata, ?_⟩
    rw [FileSystem.readText_eq_ok_iff.mpr holds]
    dsimp only
    rw [parsed, Option.bind_some, decoded]

theorem readReport_succeeds_iff : (∃ report, readReport fs dir = .ok report) ↔
    ∃ text value, fs.HoldsText (reportPath dir) text ∧ Json.Value.parse? text = some value ∧
      IsReport value := by
  unfold readReport
  constructor
  · rintro ⟨report, decoded⟩
    split at decoded
    · exact nomatch decoded
    · rename_i text read
      have holds := FileSystem.readText_eq_ok_iff.mp read
      split at decoded
      · exact nomatch decoded
      · rename_i items parsed
        split at decoded
        · rename_i suites found
          exact ⟨text, _, holds, parsed, Or.inr ⟨suites, found⟩⟩
        · exact nomatch decoded
      · rename_i value other parsed
        exact ⟨text, value, holds, parsed, Or.inl fun items same => other items (same ▸ rfl)⟩
  · rintro ⟨text, value, holds, parsed, shape⟩
    rw [FileSystem.readText_eq_ok_iff.mpr holds]
    dsimp only
    rw [parsed]
    cases value with
    | array items =>
      obtain ⟨suites, found⟩ := shape.resolve_left fun other => other items rfl
      exact ⟨.suites suites, by simp only [found]⟩
    | _ => exact ⟨.noList, rfl⟩

theorem readRun_succeeds_iff :
    (∃ run, (readRun fs dir root options).value = .ok run) ↔ Readable fs dir := by
  constructor
  · rintro ⟨run, read⟩
    obtain ⟨metadata, report, decoded, reported, -⟩ := readRun_eq_ok_iff.mp read
    exact ⟨readMetadata_succeeds_iff.mp ⟨metadata, decoded⟩,
      readReport_succeeds_iff.mp ⟨report, reported⟩⟩
  · intro readable
    obtain ⟨metadata, decoded⟩ := readMetadata_succeeds_iff.mpr readable.metadata
    obtain ⟨report, reported⟩ := readReport_succeeds_iff.mpr readable.report
    exact ⟨_, readRun_eq_ok_iff.mpr ⟨metadata, report, decoded, reported, rfl⟩⟩

/-! ### The artifacts -/

theorem withoutArtifact_place (new : TestRecord) (tests : List TestRecord) :
    (new.place tests).map TestRecord.withoutArtifact =
      new.withoutArtifact.place (tests.map TestRecord.withoutArtifact) := by
  induction tests with
  | nil => rfl
  | cons t tests ih =>
    have sameName : t.withoutArtifact.fullName = new.withoutArtifact.fullName ↔
        t.fullName = new.fullName := Iff.rfl
    rw [List.map_cons, TestRecord.place, TestRecord.place, if_congr sameName rfl rfl, ← ih]
    split <;> rfl

/-- Artifacts decide neither which records there are nor their order. -/
theorem withoutArtifact_recordsOf (artifact : Spec → Option Artifact) (specs : List Spec) :
    (recordsOf artifact specs).map TestRecord.withoutArtifact = recordsOf (fun _ => none) specs := by
  induction specs using List.reverseRecOn with
  | nil => rfl
  | append_singleton specs spec ih =>
    rw [recordsOf, recordsOf, List.foldl_concat, List.foldl_concat, withoutArtifact_place]
    exact congrArg _ ih

theorem withoutArtifact_readTests (report : ReportShape) :
    (readTests fs dir root options report).value.map TestRecord.withoutArtifact =
      recordsOf (fun _ => none) (testSpecs (reportedSuites report).value) := by
  unfold readTests
  rw [Logged.value_bind, Logged.value_bind, Logged.value_bind, extractTests_value,
    withoutArtifact_recordsOf]

theorem withoutArtifacts_assembleRun (metadata : Metadata) (tests : List TestRecord)
    (log : String) : (assembleRun fs dir metadata tests log).withoutArtifacts =
      assembleRun fs dir metadata (tests.map TestRecord.withoutArtifact) log := by
  unfold assembleRun Run.withoutArtifacts
  rw [List.length_map, List.countP_map, List.countP_map, List.map_map]
  rfl

theorem withoutArtifacts_readRun (fs : FileSystem) (dir root : Path) (options : ScanOptions) :
    (readRun fs dir root options).value.map Run.withoutArtifacts =
      (readMetadata fs dir).bind fun metadata => (readReport fs dir).map fun report =>
        assembleRun fs dir metadata
          (recordsOf (fun _ => none) (testSpecs (reportedSuites report).value))
          (readConsoleLog fs (consoleLogPath dir) options.consoleLogMaxLines).value := by
  rw [readRun_value]
  cases readMetadata fs dir with
  | error e => rfl
  | ok metadata =>
    cases readReport fs dir with
    | error e => rfl
    | ok report =>
      simp only [Except.bind, Except.map, withoutArtifacts_assembleRun, withoutArtifact_readTests]

/-- Artifacts may fill the tests of a run and nothing else of it. -/
theorem readRun_withoutArtifacts (metadata : FileSystem.SameFile fs₁ fs₂ (runMetadataPath dir))
    (report : FileSystem.SameFile fs₁ fs₂ (reportPath dir))
    (log : fs₁.entryOf? (consoleLogPath dir) = fs₂.entryOf? (consoleLogPath dir)) :
    (readRun fs₁ dir root options).value.map Run.withoutArtifacts =
      (readRun fs₂ dir root options).value.map Run.withoutArtifacts := by
  have start := startTimeOf_congr metadata
  rw [withoutArtifacts_readRun, withoutArtifacts_readRun, readMetadata_congr metadata,
    readReport_congr report, readConsoleLog_congr log]
  unfold assembleRun
  simp only [start]

theorem readRun_outsideArtifacts (same : SameOutsideArtifacts fs₁ fs₂ dir) :
    (readRun fs₁ dir root options).value.map Run.withoutArtifacts =
      (readRun fs₂ dir root options).value.map Run.withoutArtifacts := by
  have metadata : FileSystem.SameFile fs₁ fs₂ (runMetadataPath dir) := by
    intro content modified
    rw [entryOf?_runMetadataPath, entryOf?_runMetadataPath]
    split
    · exact Iff.rfl
    · exact same.files "metadata.json" content modified
  have report : fs₁.entryOf? (reportPath dir) = fs₂.entryOf? (reportPath dir) := by
    rw [entryOf?_reportPath, entryOf?_reportPath, same.outside _ (by simp)]
  have log : fs₁.entryOf? (consoleLogPath dir) = fs₂.entryOf? (consoleLogPath dir) := by
    rw [entryOf?_consoleLogPath, entryOf?_consoleLogPath, same.outside _ (by simp)]
  exact readRun_withoutArtifacts metadata (.of_entryOf? report) log

/-! ### The console log -/

theorem withoutLog_readRun (fs : FileSystem) (dir root : Path) (options : ScanOptions) :
    (readRun fs dir root options).value.map Run.withoutLog =
      (readMetadata fs dir).bind fun metadata => (readReport fs dir).map fun report =>
        assembleRun fs dir metadata (readTests fs dir root options report).value "" := by
  rw [readRun_value]
  cases readMetadata fs dir with
  | error e => rfl
  | ok metadata =>
    cases readReport fs dir with
    | error e => rfl
    | ok report => rfl

theorem readRun_outsideLog (regular₁ : fs₁.Regular) (regular₂ : fs₂.Regular)
    (same : SameOutsideLog fs₁ fs₂ dir) :
    (readRun fs₁ dir root options).value.map Run.withoutLog =
      (readRun fs₂ dir root options).value.map Run.withoutLog := by
  have metadata : fs₁.entryOf? (runMetadataPath dir) = fs₂.entryOf? (runMetadataPath dir) := by
    rw [entryOf?_runMetadataPath, entryOf?_runMetadataPath, same _ (by simp)]
  have report : fs₁.entryOf? (reportPath dir) = fs₂.entryOf? (reportPath dir) := by
    rw [entryOf?_reportPath, entryOf?_reportPath, same _ (by simp)]
  -- The trees of the artifacts agree at every address, so they are one tree.
  have artifacts : fs₁.subtree? (artifactsDir dir) = fs₂.subtree? (artifactsDir dir) := by
    refine FileSystem.subtree?_ext regular₁.sorted regular₂.sorted fun address => ?_
    rw [held?_artifactsDir, held?_artifactsDir, same _ (by simp)]
  have start := startTimeOf_congr (.of_entryOf? metadata)
  have tests := readTests_congr regular₁.named artifacts root options
  rw [withoutLog_readRun, withoutLog_readRun, readMetadata_congr (.of_entryOf? metadata),
    readReport_congr (.of_entryOf? report)]
  unfold assembleRun
  simp only [start, tests]

/-- The metadata and the report decide whether a directory holds a run. What the artifacts hold
shows in the artifacts of tests only, and the console log in the log only. -/
theorem readRun_outcome (dir root : Path) (options : ScanOptions) :
    (∀ fs, (∃ run, (readRun fs dir root options).value = .ok run) ↔ Readable fs dir) ∧
    (∀ fs₁ fs₂, SameOutsideArtifacts fs₁ fs₂ dir →
      (readRun fs₁ dir root options).value.map Run.withoutArtifacts =
        (readRun fs₂ dir root options).value.map Run.withoutArtifacts) ∧
    (∀ fs₁ fs₂ : FileSystem, fs₁.Regular → fs₂.Regular → SameOutsideLog fs₁ fs₂ dir →
      (readRun fs₁ dir root options).value.map Run.withoutLog =
        (readRun fs₂ dir root options).value.map Run.withoutLog) :=
  ⟨fun _ => readRun_succeeds_iff, fun _ _ => readRun_outsideArtifacts,
    fun _ _ => readRun_outsideLog⟩

end

namespace Torn

def text (content : String) : Node :=
  .file content.toUTF8 ⟨0, 0⟩

def metadata : Node :=
  text "\x7b\"run_id\":\"nightly\"\x7d"

def report : Node :=
  text "[\x7b\"SpecReports\":[\x7b\"LeafNodeText\":\"logs in\",\"State\":\"passed\"\x7d]\x7d]"

/-- A file system with one run. -/
def holding (artifacts reports : List (String × Node)) : FileSystem :=
  ⟨.directory [("run-a", .directory [("artifacts", .directory artifacts),
    ("reports", .directory reports)])], []⟩

def whole : FileSystem :=
  holding [("login", .directory [("metadata.json", text "\x7b\"name\":\"logs in\"\x7d")]),
    ("metadata.json", metadata)] [("report.json", report)]

/-- The metadata of the artifact is no text. -/
def torn : FileSystem :=
  holding [("login", .directory [("metadata.json", .file ⟨#[255]⟩ ⟨0, 0⟩)]),
    ("metadata.json", metadata)] [("report.json", report)]

/-- A directory stands where the log should be. -/
def blocked : FileSystem :=
  holding [("login", .directory [("metadata.json", text "\x7b\"name\":\"logs in\"\x7d")]),
    ("metadata.json", metadata)] [("report.json", report), ("test-output.log", .directory [])]

theorem held?_holding (artifacts reports : List (String × Node)) (address : List String) :
    (holding artifacts reports).held? ⟨"/run-a"⟩ address =
      (Node.directory [("artifacts", .directory artifacts),
        ("reports", .directory reports)]).entryAt? address := by
  have segments : (Path.mk "/run-a").segments = ["", "run-a"] := by decide +kernel
  have absolute : (Path.mk "/run-a").isAbsolute = true := by decide +kernel
  have walked : (holding artifacts reports).walkFrom? ⟨"/run-a"⟩ ["", "run-a"] = some ["run-a"] := by
    rw [FileSystem.walkFrom?, absolute]
    rfl
  rw [FileSystem.held?, FileSystem.subtree?_eq, segments, walked]
  rfl

theorem sameOutside_torn : SameOutsideArtifacts whole torn ⟨"/run-a"⟩ where
  outside address apart := by
    rw [whole, torn, held?_holding, held?_holding]
    cases address with
    | nil => rfl
    | cons name rest =>
      by_cases inside : name = "artifacts"
      · subst inside
        cases rest with
        | nil => rfl
        | cons below rest => exact absurd rfl (apart below rest)
      · rw [Node.entryAt?, Node.entryAt?, Node.at?_directory, Node.at?_directory,
          Keyed.lookup_cons_other inside, Keyed.lookup_cons_other inside]
  files name content modified := by
    rw [whole, torn, held?_holding, held?_holding]
    by_cases artifact : name = "login"
    · subst artifact
      exact iff_of_false (by rintro ⟨⟩) (by rintro ⟨⟩)
    · simp only [Node.entryAt?, Node.at?_directory, List.lookup_cons_self, Option.bind_some,
        Keyed.lookup_cons_other artifact]

theorem sameOutside_blocked : SameOutsideLog whole blocked ⟨"/run-a"⟩ := by
  intro address apart
  rw [whole, blocked, held?_holding, held?_holding]
  cases address with
  | nil => rfl
  | cons name rest =>
    by_cases artifacts : name = "artifacts"
    · subst artifacts
      rfl
    · rw [Node.entryAt?, Node.entryAt?, Node.at?_directory, Node.at?_directory,
        Keyed.lookup_cons_other artifacts, Keyed.lookup_cons_other artifacts]
      by_cases reports : name = "reports"
      · subst reports
        cases rest with
        | nil => rfl
        | cons below rest =>
          have other : below ≠ "test-output.log" := by
            rintro rfl
            exact apart ⟨rest, rfl⟩
          by_cases report : below = "report.json"
          · subst report
            rfl
          · simp only [List.lookup_cons_self, Option.bind_some, Node.at?_directory,
              Keyed.lookup_cons_other report, Keyed.lookup_cons_other other]
      · rw [Keyed.lookup_cons_other reports, Keyed.lookup_cons_other reports]

theorem outcome_torn : SameOutsideArtifacts whole torn ⟨"/run-a"⟩ ∧
    whole.Regular ∧ blocked.Regular ∧ SameOutsideLog whole blocked ⟨"/run-a"⟩ ∧
    (readRun whole ⟨"/run-a"⟩ ⟨"/"⟩ .default).value.map Run.withoutArtifacts =
      (readRun torn ⟨"/run-a"⟩ ⟨"/"⟩ .default).value.map Run.withoutArtifacts ∧
    (readRun whole ⟨"/run-a"⟩ ⟨"/"⟩ .default).value.map Run.withoutLog =
      (readRun blocked ⟨"/run-a"⟩ ⟨"/"⟩ .default).value.map Run.withoutLog := by
  have regular₁ : whole.Regular := FileSystem.regular_of_isRegular (by decide +kernel)
  have regular₂ : blocked.Regular := FileSystem.regular_of_isRegular (by decide +kernel)
  obtain ⟨-, artifacts, log⟩ := readRun_outcome ⟨"/run-a"⟩ ⟨"/"⟩ .default
  exact ⟨sameOutside_torn, regular₁, regular₂, sameOutside_blocked,
    artifacts whole torn sameOutside_torn, log whole blocked regular₁ regular₂ sameOutside_blocked⟩

end Torn

end TestHistory
