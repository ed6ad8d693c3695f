import TestHistory.Proofs.RegularTrees
import TestHistory.Proofs.RunConfinement
import TestHistory.Proofs.ScanOrder

/-!
# Runs that cannot be read

`runNames` are the directories that hold a run. They and the trees below them decide what a scan
gives (`foundRuns_congr`): a directory whose run cannot be read, and an entry that is no run
directory, leave the other runs and their ids as they are (`scan_of_sameRuns`).
-/

namespace TestHistory

/-- The names below a root; a root that cannot be listed has none. -/
def listing (fs : FileSystem) (root : Path) : List String :=
  (fs.names root).toOption.getD []

/-- The names of the directories that hold a run that can be read. -/
def runNames (fs : FileSystem) (root : Path) (options : ScanOptions) : List String :=
  (listing fs root).filter fun name => isRunName fs root options name &&
    (readRun fs (root.join name) root options).value.isOk

/-- The same directories hold runs, with the same contents. All else may differ. -/
structure SameRuns (fs₁ fs₂ : FileSystem) (root : Path) (options : ScanOptions) : Prop where
  names : ∀ name, name ∈ runNames fs₁ root options ↔ name ∈ runNames fs₂ root options
  contents : ∀ name ∈ runNames fs₁ root options,
    fs₁.subtree? (root.join name) = fs₂.subtree? (root.join name)

section

variable {fs fs₁ fs₂ : FileSystem} {root : Path} {options : ScanOptions}

theorem listing_pairwise (sorted : fs.Sorted) (root : Path) :
    (listing fs root).Pairwise (· < ·) := by
  unfold listing
  cases listed : fs.names root with
  | error e => exact List.Pairwise.nil
  | ok names => exact FileSystem.names_pairwise sorted listed

theorem isName_of_mem_listing (named : fs.root.Named) {name : String}
    (member : name ∈ listing fs root) : fs.isDirectory root = true ∧ Path.IsName name := by
  unfold listing at member
  cases listed : fs.names root with
  | error e =>
    rw [listed] at member
    exact absurd member List.not_mem_nil
  | ok names =>
    rw [listed] at member
    refine ⟨?_, FileSystem.names_named named listed name member⟩
    unfold FileSystem.names at listed
    unfold FileSystem.isDirectory
    split at listed
    · rename_i found
      rw [found]
    · exact nomatch listed
    · exact nomatch listed

theorem mem_listing_of_isDirectory (top : fs.isDirectory root = true) {name : String}
    (isName : Path.IsName name) (inside : fs.isDirectory (root.join name) = true) :
    name ∈ listing fs root := by
  obtain ⟨entries, here⟩ := FileSystem.node_of_isDirectory top
  obtain ⟨below, there⟩ := FileSystem.node_of_isDirectory inside
  have found := fs.subtree?_join root isName.namesInside
  rw [FileSystem.subtree?_of_node here, FileSystem.subtree?_of_node there, isName.segments,
    Option.bind_some, Node.descend?_name isName] at found
  split at found
  · exact nomatch found
  · rw [listing, FileSystem.names, here]
    exact Keyed.isSome_lookup.mp (congrArg Option.isSome found.symm)

theorem scannedDirectories_eq (fs : FileSystem) (root : Path) (options : ScanOptions) :
    scannedDirectories fs root options =
      ((listing fs root).filter (isRunName fs root options)).map root.join := by
  unfold scannedDirectories listing
  cases fs.names root with
  | error e => rfl
  | ok names => exact runDirectories_eq fs root options names

theorem mem_scannedDirectories (top : fs.isDirectory root = true) {name : String}
    (isName : Path.IsName name) (starts : options.runPrefix.toList <+: name.toList)
    (directory : fs.isDirectory (root.join name) = true) :
    root.join name ∈ scannedDirectories fs root options := by
  have listed := mem_listing_of_isDirectory top isName directory
  rw [scannedDirectories_eq]
  exact List.mem_map_of_mem
    (List.mem_filter.mpr ⟨listed, isRunName_iff.mpr ⟨starts, directory⟩⟩)

theorem mem_runNames (named : fs.root.Named) {name : String} :
    name ∈ runNames fs root options ↔ fs.isDirectory root = true ∧ Path.IsName name ∧
      options.runPrefix.toList <+: name.toList ∧ fs.isDirectory (root.join name) = true ∧
      ∃ run, (readRun fs (root.join name) root options).value = .ok run := by
  have isOk (result : Except RunError Run) : result.isOk = true ↔ ∃ run, result = .ok run := by
    cases result with
    | error e => exact iff_of_false nofun nofun
    | ok run => exact iff_of_true rfl ⟨run, rfl⟩
  rw [runNames, List.mem_filter, Bool.and_eq_true, isRunName_iff, isOk]
  constructor
  · rintro ⟨member, ⟨starts, directory⟩, read⟩
    obtain ⟨top, isName⟩ := isName_of_mem_listing named member
    exact ⟨top, isName, starts, directory, read⟩
  · rintro ⟨top, isName, starts, directory, read⟩
    exact ⟨mem_listing_of_isDirectory top isName directory, ⟨starts, directory⟩, read⟩

theorem runNames_pairwise (sorted : fs.Sorted) (root : Path) (options : ScanOptions) :
    (runNames fs root options).Pairwise (· < ·) :=
  (listing_pairwise sorted root).filter _

theorem isSome_foundRun (fs : FileSystem) (root : Path) (options : ScanOptions) (dir : Path) :
    (foundRun fs root options dir).isSome = (readRun fs dir root options).value.isOk := by
  unfold foundRun
  cases (readRun fs dir root options).value with
  | error e => rfl
  | ok run => rfl

theorem foundRuns_eq (fs : FileSystem) (root : Path) (options : ScanOptions) :
    foundRuns fs root options = (runNames fs root options).filterMap fun name =>
      foundRun fs root options (root.join name) := by
  rw [foundRuns, scannedDirectories_eq, List.filterMap_map, runNames, List.filterMap_filter,
    List.filterMap_filter]
  congr 1
  funext name
  rw [← isSome_foundRun, Function.comp_apply]
  cases isRunName fs root options name with
  | false => rfl
  | true =>
    cases foundRun fs root options (root.join name) with
    | none => rfl
    | some found => rfl

theorem foundRuns_congr (regular₁ : fs₁.Regular) (regular₂ : fs₂.Regular)
    (same : SameRuns fs₁ fs₂ root options) :
    foundRuns fs₁ root options = foundRuns fs₂ root options := by
  have names : runNames fs₁ root options = runNames fs₂ root options :=
    (runNames_pairwise regular₁.sorted root options).eq_of_mem_iff
      (runNames_pairwise regular₂.sorted root options) same.names
  rw [foundRuns_eq, foundRuns_eq, ← names]
  refine List.filterMap_congr fun name member => ?_
  ext found
  rw [foundRun_eq_some, foundRun_eq_some,
    readRun_congr regular₁.named (same.contents name member) root options]

/-- What a scan gives depends on the runs that can be read and on nothing else below the root. -/
theorem scan_of_sameRuns (regular₁ : fs₁.Regular) (regular₂ : fs₂.Regular)
    (same : SameRuns fs₁ fs₂ root options) :
    ∃ runs, (scan fs₁ root options).value = .ok runs ∧
      (scan fs₂ root options).value = .ok runs := by
  refine ⟨_, scan_value fs₁ root options, ?_⟩
  rw [scan_value, foundRuns_congr regular₁ regular₂ same]

end

namespace Crossed

def metadata : Node :=
  .directory [("metadata.json", .file "\x7b\"run_id\":\"nightly\"\x7d".toUTF8 ⟨0, 0⟩)]

def reports : Node :=
  .directory [("report.json", .file "[]".toUTF8 ⟨0, 0⟩)]

def night : Node :=
  .directory [("artifacts", metadata), ("reports", reports)]

/-- Two runs with one id. -/
def clean : FileSystem :=
  ⟨.directory [("work", .directory [("run-a", night), ("run-c", night)])], ["work"]⟩

/-- Between the two runs a directory with the same id but no report, and beside them entries that
are no run directories. -/
def littered : FileSystem :=
  ⟨.directory [("work", .directory [("notes", night), ("run-a", night),
    ("run-b", .directory [("artifacts", metadata)]), ("run-c", night),
    ("run-d", .file "".toUTF8 ⟨0, 0⟩)])], ["work"]⟩

theorem sameRuns_littered : SameRuns clean littered ⟨"."⟩ .default where
  names := by
    have first : runNames clean ⟨"."⟩ .default = ["run-a", "run-c"] := by decide +kernel
    have second : runNames littered ⟨"."⟩ .default = ["run-a", "run-c"] := by decide +kernel
    rw [first, second]
    exact fun name => Iff.rfl
  contents := by
    have names : runNames clean ⟨"."⟩ .default = ["run-a", "run-c"] := by decide +kernel
    have first : ∀ name ∈ ["run-a", "run-c"], clean.walkFrom? (Path.join ⟨"."⟩ name)
        (Path.join ⟨"."⟩ name).segments = some ["work", name] := by decide +kernel
    have second : ∀ name ∈ ["run-a", "run-c"], littered.walkFrom? (Path.join ⟨"."⟩ name)
        (Path.join ⟨"."⟩ name).segments = some ["work", name] := by decide +kernel
    rw [names]
    intro name member
    rw [FileSystem.subtree?_eq, FileSystem.subtree?_eq, first name member, second name member]
    rcases List.mem_pair.mp member with rfl | rfl
    · rfl
    · rfl

theorem scan_littered : clean.Regular ∧ littered.Regular ∧
    SameRuns clean littered ⟨"."⟩ .default ∧
    ∃ runs, (scan clean ⟨"."⟩ .default).value = .ok runs ∧
      (scan littered ⟨"."⟩ .default).value = .ok runs := by
  have regular₁ : clean.Regular := FileSystem.regular_of_isRegular (by decide +kernel)
  have regular₂ : littered.Regular := FileSystem.regular_of_isRegular (by decide +kernel)
  exact ⟨regular₁, regular₂, sameRuns_littered,
    scan_of_sameRuns regular₁ regular₂ sameRuns_littered⟩

end Crossed

end TestHistory
