import Mathlib.Data.List.Forall2
import TestHistory.Proofs.Keyed
import TestHistory.Proofs.RunOrder
import TestHistory.Proofs.ScannedRuns
import TestHistory.Proofs.SortedTrees
import TestHistory.Proofs.WrittenTimes

/-!
# What a scan lists

`ListsRuns` says which runs a scan gives and in which order: one run for every directory that holds
one, the newest first. `scan_listsRuns` shows it for every sorted tree whose root can be listed.
-/

namespace TestHistory

open Text (bytes)

/-- The order of a scan, for runs beside the names of their directories. -/
def ListedBefore (a b : String × Run) : Prop :=
  a.2.NewerThan b.2 ∨ a.2.startTime = b.2.startTime ∧ bytes a.1 < bytes b.1

/-- A run is as it is read from a directory, except that it may be renamed. -/
def Run.IsOf (dir : Path) (read run : Run) : Prop :=
  run = read ∨ run = { read with id := distinctId read.id dir }

/-- Runs with the names of their directories: one for every directory whose name begins as it
should and whose run can be read. -/
structure HoldsRuns (fs : FileSystem) (root : Path) (options : ScanOptions) (names : List String)
    (listed : List (String × Run)) : Prop where
  nodup : (listed.map Prod.fst).Nodup
  directories : ∀ name, name ∈ listed.map Prod.fst ↔
    name ∈ names ∧ options.runPrefix.toList <+: name.toList ∧
      fs.isDirectory (root.join name) = true ∧
      ∃ run, (readRun fs (root.join name) root options).value = .ok run
  runs : ∀ entry ∈ listed, ∃ read,
    (readRun fs (root.join entry.1) root options).value = .ok read ∧
      Run.IsOf (root.join entry.1) read entry.2

/-- The runs of a scan, the newest first. -/
structure ListsRuns (fs : FileSystem) (root : Path) (options : ScanOptions) (names : List String)
    (listed : List (String × Run)) : Prop extends HoldsRuns fs root options names listed where
  order : listed.Pairwise ListedBefore
  /-- The instant of a start is that of its text, in any offset and with any fraction. -/
  instants : ∀ entry ∈ listed, ∀ w : Time.WrittenTime, entry.2.startTime = w.text →
    entry.2.startedAt = some w.instant

/-! ### Names beside runs -/

section

variable {fs : FileSystem} {root : Path} {options : ScanOptions} {names : List String}

def isRunName (fs : FileSystem) (root : Path) (options : ScanOptions) (name : String) : Bool :=
  options.runPrefix.toList.isPrefixOf name.toList && fs.isDirectory (root.join name)

/-- The runs that are found, each beside the name of its directory. -/
def namedRuns (fs : FileSystem) (root : Path) (options : ScanOptions) (names : List String) :
    List (String × Path × Run) :=
  (names.filter (isRunName fs root options)).filterMap fun name =>
    (foundRun fs root options (root.join name)).map (name, ·)

theorem isRunName_iff {name : String} :
    isRunName fs root options name = true ↔
      options.runPrefix.toList <+: name.toList ∧ fs.isDirectory (root.join name) = true := by
  rw [isRunName, Bool.and_eq_true, List.isPrefixOf_iff_prefix]

theorem foundRun_eq_some {dir : Path} {found : Path × Run} :
    foundRun fs root options dir = some found ↔
      found.1 = dir ∧ (readRun fs dir root options).value = .ok found.2 := by
  obtain ⟨dir', run⟩ := found
  unfold foundRun
  cases (readRun fs dir root options).value with
  | error e => exact iff_of_false nofun nofun
  | ok read =>
    rw [Option.some.injEq, Prod.mk.injEq, Except.ok.injEq]
    exact and_congr_left fun _ => eq_comm

theorem mem_namedRuns {found : String × Path × Run} :
    found ∈ namedRuns fs root options names ↔
      found.1 ∈ names ∧ isRunName fs root options found.1 = true ∧
        found.2.1 = root.join found.1 ∧
        (readRun fs (root.join found.1) root options).value = .ok found.2.2 := by
  rw [namedRuns, List.mem_filterMap]
  constructor
  · rintro ⟨name, kept, same⟩
    obtain ⟨pair, read, rfl⟩ := Option.map_eq_some_iff.mp same
    obtain ⟨member, runName⟩ := List.mem_filter.mp kept
    exact ⟨member, runName, foundRun_eq_some.mp read⟩
  · rintro ⟨member, runName, read⟩
    exact ⟨found.1, List.mem_filter.mpr ⟨member, runName⟩,
      Option.map_eq_some_iff.mpr ⟨found.2, foundRun_eq_some.mpr read, rfl⟩⟩

theorem runDirectories_eq (fs : FileSystem) (root : Path) (options : ScanOptions)
    (names : List String) : runDirectories fs root options names =
      (names.filter (isRunName fs root options)).map root.join := by
  rw [runDirectories, List.filter_map, List.filter_filter]
  congr 1
  exact List.filter_congr fun name _ => Bool.and_comm ..

theorem map_snd_namedRuns (listed : fs.names root = .ok names) :
    (namedRuns fs root options names).map Prod.snd = foundRuns fs root options := by
  rw [foundRuns, scannedDirectories, listed]
  dsimp only
  rw [runDirectories_eq, List.filterMap_map, namedRuns, List.map_filterMap]
  congr 1
  funext name
  rw [Option.map_map]
  exact Option.map_id'

theorem map_fst_namedRuns_sublist (fs : FileSystem) (root : Path) (options : ScanOptions)
    (names : List String) : ((namedRuns fs root options names).map Prod.fst).Sublist names := by
  refine (Keyed.map_filterMap_sublist _ fun name found same => ?_).trans List.filter_sublist
  obtain ⟨pair, -, rfl⟩ := Option.map_eq_some_iff.mp same
  rfl

/-- The runs that are kept are those found, one by one. -/
theorem Scanned.collect_runs (found : List (Path × Run)) :
    List.Forall₂ (fun f run => Run.IsOf f.1 f.2 run) found (collect found).runs.reverse := by
  induction found using List.reverseRecOn with
  | nil => exact .nil
  | append_singleton found last ih =>
    rw [collect_concat, add, List.reverse_cons]
    refine List.rel_append ih (.cons ?_ .nil)
    unfold assignId
    split
    · exact Or.inr rfl
    · exact Or.inl rfl

theorem map_fst_zip_namedRuns {runs : List Run}
    (length : (namedRuns fs root options names).length = runs.length) :
    (((namedRuns fs root options names).map Prod.fst).zip runs).map Prod.fst =
      (namedRuns fs root options names).map Prod.fst :=
  List.map_fst_zip (by rw [List.length_map, length])

/-- The names of the directories beside the runs that are kept. -/
theorem holdsRuns_zip {runs : List Run} (ordered : names.Pairwise (· < ·))
    (same : List.Forall₂ (fun found run => Run.IsOf found.2.1 found.2.2 run)
      (namedRuns fs root options names) runs) :
    HoldsRuns fs root options names (((namedRuns fs root options names).map Prod.fst).zip runs) := by
  have firsts := map_fst_zip_namedRuns same.length_eq
  refine ⟨?_, fun name => ?_, fun entry member => ?_⟩
  · rw [firsts]
    exact (ordered.sublist (map_fst_namedRuns_sublist ..)).imp fun below => below.ne
  · rw [firsts, List.mem_map]
    constructor
    · rintro ⟨found, member, rfl⟩
      obtain ⟨inside, runName, -, read⟩ := mem_namedRuns.mp member
      obtain ⟨starts, directory⟩ := isRunName_iff.mp runName
      exact ⟨inside, starts, directory, found.2.2, read⟩
    · rintro ⟨inside, starts, directory, run, read⟩
      exact ⟨(name, root.join name, run),
        mem_namedRuns.mpr ⟨inside, isRunName_iff.mpr ⟨starts, directory⟩, rfl, read⟩, rfl⟩
  · rw [List.zip_map_left, List.mem_map] at member
    obtain ⟨⟨found, run⟩, paired, rfl⟩ := member
    obtain ⟨-, -, dir, read⟩ := mem_namedRuns.mp (List.of_mem_zip paired).1
    refine ⟨found.2.2, read, ?_⟩
    have kept := (List.forall₂_iff_zip.mp same).2 paired
    rwa [dir] at kept

end

theorem HoldsRuns.perm {fs : FileSystem} {root : Path} {options : ScanOptions} {names : List String}
    {listed listed' : List (String × Run)} (holds : HoldsRuns fs root options names listed)
    (perm : listed'.Perm listed) : HoldsRuns fs root options names listed' where
  nodup := (perm.map Prod.fst).nodup_iff.mpr holds.nodup
  directories name := (perm.map Prod.fst).mem_iff.trans (holds.directories name)
  runs entry member := holds.runs entry (perm.mem_iff.mp member)

/-! ### The scan -/

theorem listedBefore_iff {a b : String × Run} :
    ListedBefore a b ↔ OrderDual.toDual a.2.key < OrderDual.toDual b.2.key ∨
      OrderDual.toDual a.2.key = OrderDual.toDual b.2.key ∧ a.1 < b.1 := by
  rw [ListedBefore, Run.newerThan_iff, ← Run.key_inj, Text.bytes_lt_iff]
  rfl

/-- Sorting runs beside names, which increase, puts them into the order of a scan. -/
theorem pairwise_listedBefore {placed : List (String × Run)}
    (increasing : (placed.map Prod.fst).Pairwise (· < ·)) :
    (placed.mergeSort fun a b => (Run.compare b.2 a.2).isLE).Pairwise ListedBefore := by
  have byKey : Sorting.ByKey (fun entry : String × Run => OrderDual.toDual entry.2.key)
      fun a b => (Run.compare b.2 a.2).isLE :=
    fun a b => Run.byKey_newestFirst a.2 b.2
  exact (Sorting.pairwise_mergeSort byKey (List.pairwise_map.mp increasing)).imp listedBefore_iff.mpr

/-- In a tree whose root can be listed, a scan lists every run once and in order. -/
theorem scan_listsRuns {fs : FileSystem} {root : Path} {names : List String} (sorted : fs.Sorted)
    (listed : fs.names root = .ok names) (options : ScanOptions) :
    ∃ found, (scan fs root options).value = .ok (found.map Prod.snd) ∧
      ListsRuns fs root options names found := by
  have ordered := FileSystem.names_pairwise sorted listed
  -- The runs are kept in the order of their directories, so their names still increase.
  have same := Scanned.collect_runs (foundRuns fs root options)
  rw [← map_snd_namedRuns listed, List.forall₂_map_left_iff] at same
  have increasing := ordered.sublist (map_fst_namedRuns_sublist fs root options names)
  rw [← map_fst_zip_namedRuns same.length_eq] at increasing
  refine ⟨_, ?_, (holdsRuns_zip ordered same).perm (List.mergeSort_perm _ _),
    pairwise_listedBefore increasing, ?_⟩
  · rw [scan_value, List.map_mergeSort (s := fun a b => (Run.compare b a).isLE) fun _ _ _ _ => rfl,
      List.map_snd_zip (by rw [List.length_map, same.length_eq]), map_snd_namedRuns listed]
    rfl
  · intro entry _ w written
    rw [Run.startedAt, written, Time.parseInstant_text]

namespace Overlap

def runFile (start : String) : Node :=
  .file ("\x7b\"start_time\":\"" ++ start ++ "\"\x7d").toUTF8 ⟨0, 0⟩

/-- Two runs of one instant with different offsets, and one whose start names no instant. -/
def tree : FileSystem :=
  ((((((FileSystem.empty.put ⟨"run-a/artifacts/metadata.json"⟩
      (runFile "2025-01-01T11:00:00.50Z")).put
    ⟨"run-a/reports/report.json"⟩ (.file "[]".toUTF8 ⟨0, 0⟩)).put
    ⟨"run-b/artifacts/metadata.json"⟩ (runFile "2025-01-01T12:00:00.5+01:00")).put
    ⟨"run-b/reports/report.json"⟩ (.file "[]".toUTF8 ⟨0, 0⟩)).put
    ⟨"run-c/artifacts/metadata.json"⟩ (runFile "soon")).put
    ⟨"run-c/reports/report.json"⟩ (.file "[]".toUTF8 ⟨0, 0⟩))

theorem sorted_tree : tree.Sorted := by
  unfold tree
  iterate 6 refine FileSystem.sorted_put ?_ _ (.file ..)
  exact FileSystem.sorted_empty

theorem listed_overlap : tree.Sorted ∧ tree.names ⟨"."⟩ = .ok ["run-a", "run-b", "run-c"] ∧
    ∃ found, (scan tree ⟨"."⟩ .default).value = .ok (found.map Prod.snd) ∧
      ListsRuns tree ⟨"."⟩ .default ["run-a", "run-b", "run-c"] found := by
  have listed : tree.names ⟨"."⟩ = .ok ["run-a", "run-b", "run-c"] := by decide +kernel
  exact ⟨sorted_tree, listed, scan_listsRuns sorted_tree listed .default⟩

end Overlap

end TestHistory
