import Mathlib.Data.List.Induction
import TestHistory.CommandLine.Program
import TestHistory.Proofs.JsonText
import TestHistory.Proofs.ScannedRuns

/-!
# Output for programs

With `--json`, what a successful call prints is to be one JSON document. `generate` and `flaky`
keep to this on every path; `compare` keeps to it exactly when the scan finds a run, since it looks
for runs before it looks at the flag. `isDocument_output_iff` says so for whole calls.
-/

namespace TestHistory.CommandLine

variable {o : Occasion} {a : Arguments}

/-- One JSON value on lines of its own, which is read back, and nothing else. -/
def IsDocument (output : String) : Prop :=
  ∃ v : Json.Value, output = jsonLine v ∧ Json.Tree.parse? output = some v.tree

theorem isDocument_jsonLine (v : Json.Value) : IsDocument (jsonLine v) :=
  ⟨v, rfl, Json.parse?_pretty v⟩

theorem not_isDocument_noRunsLine : ¬ IsDocument noRunsLine := by
  rintro ⟨v, -, read⟩
  have unreadable : Json.Tree.parse? noRunsLine = none := by decide +kernel
  exact nomatch unreadable.symm.trans read

/-! ### Runs -/

/-- The settings are in order, and no directory of the scan holds a run that can be read. -/
def FindsNoRuns (o : Occasion) (a : Arguments) : Prop :=
  ∃ config, (Config.load o.files a.path o.environment a.overrides o.orders).value = .ok config ∧
    foundRuns o.files a.path config.scan = []

theorem length_collect (found : List (Path × Run)) :
    (Scanned.collect found).runs.length = found.length := by
  induction found using List.reverseRecOn with
  | nil => rfl
  | append_singleton found last ih =>
    rw [Scanned.collect_concat, List.length_append, ← ih]
    rfl

theorem loadRuns_value (o : Occasion) (a : Arguments) :
    (loadRuns o a).value =
      (Config.load o.files a.path o.environment a.overrides o.orders).value.map fun config =>
        (config, Run.sortNewestFirst
          (Scanned.collect (foundRuns o.files a.path config.scan)).runs.reverse) := by
  unfold loadRuns
  rw [Logged.value_bind]
  cases (Config.load o.files a.path o.environment a.overrides o.orders).value with
  | error e => rfl
  | ok config =>
    dsimp only
    rw [Logged.value_bind, scan_value]
    rfl

theorem findsNoRuns_iff :
    FindsNoRuns o a ↔ ∃ config, (loadRuns o a).value = .ok (config, []) := by
  have emptied (found : List (Path × Run)) :
      Run.sortNewestFirst (Scanned.collect found).runs.reverse = [] ↔ found = [] := by
    rw [← List.length_eq_zero_iff, (Run.sortNewestFirst_perm _).length_eq, List.length_reverse,
      length_collect, List.length_eq_zero_iff]
  rw [loadRuns_value]
  cases loaded : (Config.load o.files a.path o.environment a.overrides o.orders).value with
  | error e => simp [FindsNoRuns, loaded, Except.map]
  | ok config => simp [FindsNoRuns, loaded, Except.map, emptied]

/-! ### The commands -/

theorem scanningLine_of_json (json : a.json = true) : scanningLine a = "" := by
  simp [scanningLine, json]

theorem writeReport_isDocument {config : Config} {report : Report} (json : a.json = true)
    (success : (writeReport o a config report).value.failure = none) :
    IsDocument (writeReport o a config report).value.output := by
  unfold writeReport at success ⊢
  dsimp only at success ⊢
  split
  · rename_i e refused
    rw [refused] at success
    exact nomatch success
  · rename_i files e stopped
    rw [stopped] at success
    exact nomatch success
  · simp only [Logged.value_bind, Logged.value_pure, scanningLine_of_json json, writtenAnswer,
      if_pos json, String.empty_append]
    exact isDocument_jsonLine _

theorem generate_isDocument (json : a.json = true)
    (success : (generate o a).value.failure = none) : IsDocument (generate o a).value.output := by
  unfold generate at success ⊢
  rw [Logged.value_bind] at success ⊢
  split
  · rename_i e failed
    rw [failed] at success
    exact nomatch success
  · rename_i config runs loaded
    rw [loaded] at success
    simp only [Logged.value_bind] at success ⊢
    split
    · simp only [Logged.value_pure, Occasion.print, scanningLine_of_json json, emptyAnswer,
        if_pos json, String.empty_append]
      exact isDocument_jsonLine _
    · rename_i some
      rw [if_neg some] at success
      exact writeReport_isDocument json success

theorem flaky_isDocument (json : a.json = true)
    (success : (flaky o a).value.failure = none) : IsDocument (flaky o a).value.output := by
  unfold flaky at success ⊢
  rw [Logged.value_bind] at success ⊢
  split
  · rename_i e failed
    rw [failed] at success
    exact nomatch success
  · simp only [Logged.value_bind, if_pos json]
    exact isDocument_jsonLine _

theorem compare_isDocument (json : a.json = true) (runs : ¬ FindsNoRuns o a)
    (success : (compare o a).value.failure = none) : IsDocument (compare o a).value.output := by
  unfold compare at success ⊢
  rw [Logged.value_bind] at success ⊢
  split
  · rename_i e failed
    rw [failed] at success
    exact nomatch success
  · rename_i config runs' loaded
    rw [loaded] at success
    have some : ¬ runs'.isEmpty := by
      intro empty
      obtain rfl := List.isEmpty_iff.mp empty
      exact runs (findsNoRuns_iff.mpr ⟨config, loaded⟩)
    dsimp only at success ⊢
    rw [if_neg some] at success ⊢
    split
    · rename_i e refused
      rw [refused] at success
      exact nomatch success
    · simp only [Logged.value_bind, if_pos json]
      exact isDocument_jsonLine _

/-- Without runs, a comparison says so to a person, whatever the flags are. -/
theorem compare_of_findsNoRuns (none : FindsNoRuns o a) :
    (compare o a).value = o.print noRunsLine := by
  obtain ⟨config, loaded⟩ := findsNoRuns_iff.mp none
  unfold compare
  rw [Logged.value_bind, loaded]
  rfl

/-! ### Whole calls -/

theorem exitCode_pos (code : FailureCode) : 0 < code.exitCode := by
  cases code <;> decide

theorem failure_of_exitCode {outcome : Logged Outcome}
    (success : (conclude o a outcome).exitCode = 0) : outcome.value.failure = none := by
  cases failure : outcome.value.failure with
  | none => rfl
  | some f =>
    have code : (conclude o a outcome).exitCode = f.code.exitCode := by
      rw [conclude, failure]
      rfl
    have positive := exitCode_pos f.code
    omega

/-- A successful call with `--json` prints one JSON document exactly unless it compares runs where
there are none. -/
theorem isDocument_output_iff {args : List String}
    (parsed : Arguments.parse args o.environment = .ok a) (json : a.json = true)
    (success : (run o args).exitCode = 0) :
    IsDocument (run o args).output ↔ ¬ (a.command = .compare ∧ FindsNoRuns o a) := by
  have called : run o args = conclude o a (act o a) := by
    rw [run, parsed]
  rw [called] at success ⊢
  have success := failure_of_exitCode success
  change IsDocument (act o a).value.output ↔ _
  unfold act at success ⊢
  split
  · rename_i command
    rw [command] at success
    simp [generate_isDocument json success, command]
  · rename_i command
    rw [command] at success
    constructor
    · rintro document ⟨-, none⟩
      rw [compare_of_findsNoRuns none] at document
      exact not_isDocument_noRunsLine document
    · intro runs
      exact compare_isDocument json (fun none => runs ⟨command, none⟩) success
  · rename_i command
    rw [command] at success
    simp [flaky_isDocument json success, command]

/-! ### Calls in a fixed place -/

/-- A place where nobody watches, at a fixed time. -/
def placeWith (entries : List (String × Node)) : Surroundings where
  files := ⟨.directory entries, []⟩
  environment := []
  clock := ⟨⟨2025, 1, 1⟩, 0, 0, 0, 0, 0⟩
  onTerminal := false
  errorsOnTerminal := false

/-- A run directory without tests. -/
def emptyRun : Node :=
  .directory [
    ("artifacts", .directory [("metadata.json", .file "\x7b\x7d".toUTF8 ⟨0, 0⟩)]),
    ("reports", .directory [("report.json", .file "[]".toUTF8 ⟨0, 0⟩)])]

def jsonArguments (command : Command) : Arguments where
  command := command
  path := ⟨"."⟩
  json := true
  verbose := 0
  quiet := false
  logJson := false
  noColor := false
  config := none
  output := none
  title := none
  runPrefix := none
  base := none
  head := none

theorem findsNoRuns_nowhere : FindsNoRuns (placeWith []) (jsonArguments .compare) :=
  ⟨.default, rfl, rfl⟩

/-- Both sides occur: a list of flaky tests with a run, and a comparison without one. -/
theorem isDocument_output_flaky_compare :
    IsDocument (run (placeWith [("run-1", emptyRun)]) ["flaky", "--json"]).output ∧
      ¬ IsDocument (run (placeWith []) ["compare", "--json"]).output := by
  constructor
  · refine (isDocument_output_iff (a := jsonArguments .flaky) rfl rfl (by decide +kernel)).mpr ?_
    rintro ⟨compares, -⟩
    exact nomatch compares
  · rw [isDocument_output_iff (a := jsonArguments .compare) rfl rfl (by decide +kernel), not_not]
    exact ⟨rfl, findsNoRuns_nowhere⟩

/-- In an empty directory a comparison with `--json` succeeds, and prints a sentence. -/
theorem compare_json_prints_sentence :
    Arguments.parse ["compare", "--json"] (placeWith []).environment = .ok (jsonArguments .compare) ∧
      (run (placeWith []) ["compare", "--json"]).exitCode = 0 ∧
      (run (placeWith []) ["compare", "--json"]).output = "No runs found.\n" ∧
      ¬ IsDocument (run (placeWith []) ["compare", "--json"]).output := by
  have sentence : (run (placeWith []) ["compare", "--json"]).output = noRunsLine := by
    decide +kernel
  refine ⟨rfl, by decide +kernel, sentence, ?_⟩
  rw [sentence]
  exact not_isDocument_noRunsLine

end TestHistory.CommandLine
