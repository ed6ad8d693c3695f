import TestHistory.Scan.Basic

/-!
# A scan as a fold

`scan` goes through directories and reports events on its way. `scan_value` says what its runs
are: the runs that can be read, put together one after the other.
-/

namespace TestHistory

theorem Logged.value_foldlM {α β : Type} (f : β → α → Logged β) (b : β) (l : List α) :
    (l.foldlM f b).value = l.foldl (fun b a => (f b a).value) b := by
  induction l generalizing b with
  | nil => rfl
  | cons a l ih => rw [List.foldlM_cons, value_bind, ih, List.foldl_cons]

theorem Run.sortNewestFirst_perm (runs : List Run) : (sortNewestFirst runs).Perm runs :=
  List.mergeSort_perm runs _

/-! ### The runs that can be read -/

/-- The directories of a scan, in the order of names. -/
def scannedDirectories (fs : FileSystem) (root : Path) (options : ScanOptions) : List Path :=
  match fs.names root with
  | .ok names => runDirectories fs root options names
  | .error _ => []

/-- A directory with its run. -/
def foundRun (fs : FileSystem) (root : Path) (options : ScanOptions) (dir : Path) :
    Option (Path × Run) :=
  match (readRun fs dir root options).value with
  | .ok run => some (dir, run)
  | .error _ => none

/-- The directories that hold a run, each with its run as it is read. -/
def foundRuns (fs : FileSystem) (root : Path) (options : ScanOptions) : List (Path × Run) :=
  (scannedDirectories fs root options).filterMap (foundRun fs root options)

/-! ### Putting runs together -/

def Scanned.add (scanned : Scanned) (found : Path × Run) : Scanned :=
  let run := (assignId scanned.ids found.1 found.2).value
  ⟨run :: scanned.runs, run.id :: scanned.ids⟩

def Scanned.collect (found : List (Path × Run)) : Scanned :=
  found.foldl add ⟨[], []⟩

theorem Scanned.collect_concat (found : List (Path × Run)) (last : Path × Run) :
    collect (found ++ [last]) = (collect found).add last := by
  rw [collect, List.foldl_append]
  rfl

theorem scanStep_value (fs : FileSystem) (root : Path) (options : ScanOptions) (scanned : Scanned)
    (dir : Path) :
    (scanStep fs root options scanned dir).value =
      (foundRun fs root options dir).elim scanned scanned.add := by
  unfold scanStep foundRun
  rw [Logged.value_bind]
  cases (readRun fs dir root options).value with
  | ok run => rfl
  | error e => rfl

theorem foldl_scanStep (fs : FileSystem) (root : Path) (options : ScanOptions) (scanned : Scanned)
    (dirs : List Path) :
    dirs.foldl (fun scanned dir => (scanStep fs root options scanned dir).value) scanned =
      (dirs.filterMap (foundRun fs root options)).foldl Scanned.add scanned := by
  induction dirs generalizing scanned with
  | nil => rfl
  | cons dir dirs ih =>
    rw [List.foldl_cons, ih, scanStep_value, List.filterMap_cons]
    cases foundRun fs root options dir with
    | none => rfl
    | some found => rfl

theorem names_of_isDirectory {fs : FileSystem} {root : Path} (h : fs.isDirectory root = true) :
    ∃ names, fs.names root = .ok names := by
  unfold FileSystem.isDirectory at h
  split at h
  · rename_i entries node
    exact ⟨entries.map Prod.fst, by rw [FileSystem.names, node]⟩
  · exact Bool.noConfusion h

theorem scannedDirectories_of_not_isDirectory {fs : FileSystem} {root : Path}
    (h : fs.isDirectory root = false) (options : ScanOptions) :
    scannedDirectories fs root options = [] := by
  unfold scannedDirectories FileSystem.names
  unfold FileSystem.isDirectory at h
  cases node : fs.node root with
  | error e => rfl
  | ok node' =>
    cases node' with
    | file content modified => rfl
    | directory entries => rw [node] at h; exact Bool.noConfusion h

/-- A scan always succeeds; its runs are those found, with the ids they are given. -/
theorem scan_value (fs : FileSystem) (root : Path) (options : ScanOptions) :
    (scan fs root options).value =
      .ok (Run.sortNewestFirst (Scanned.collect (foundRuns fs root options)).runs.reverse) := by
  unfold scan foundRuns Scanned.collect
  by_cases directory : fs.isDirectory root = true
  · obtain ⟨names, same⟩ := names_of_isDirectory directory
    rw [if_pos directory, scannedDirectories, same]
    simp only [Logged.value_bind, Logged.value_pure, Logged.value_foldlM, foldl_scanStep]
  · rw [if_neg directory,
      scannedDirectories_of_not_isDirectory (Bool.eq_false_iff.mpr directory)]
    simp only [Logged.value_bind, Logged.value_pure, List.filterMap_nil, List.foldl_nil,
      List.reverse_nil, Run.sortNewestFirst, List.mergeSort_nil]

end TestHistory
