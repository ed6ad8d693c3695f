import Mathlib.Data.List.Induction
import TestHistory.Proofs.ScannedRuns

/-!
# The ids of scanned runs

A run whose id is in use is renamed, but nothing asks whether its new id is in use as well.
`scan_ids_nodup_iff` says when the ids of a scan are distinct all the same.
-/

namespace TestHistory

/-- Ids in use after some run directories: those that a directory declares, and those that a
directory is renamed to because the id it declares is in use before. -/
inductive InUse : List (Path × Run) → String → Prop where
  | declared {found : List (Path × Run)} {dir : Path} {run : Run} (member : (dir, run) ∈ found) :
      InUse found run.id
  | renamed {before after : List (Path × Run)} {dir : Path} {run : Run}
      (taken : InUse before run.id) :
      InUse (before ++ (dir, run) :: after) (distinctId run.id dir)

/-- No directory is renamed to an id in use. -/
def RenamesFresh (found : List (Path × Run)) : Prop :=
  ∀ before dir run after, found = before ++ (dir, run) :: after →
    InUse before run.id → ¬ InUse before (distinctId run.id dir)

/-! ### One more directory -/

theorem split_concat {α : Type} {before after all : List α} {x last : α}
    (h : all ++ [last] = before ++ x :: after) :
    (before = all ∧ x = last) ∨ ∃ rest, all = before ++ x :: rest := by
  rcases List.eq_nil_or_concat after with rfl | ⟨rest, y, rfl⟩
  · obtain ⟨same, single⟩ := List.append_inj' h rfl
    exact Or.inl ⟨same.symm, (List.singleton_inj.mp single).symm⟩
  · have regrouped : all ++ [last] = (before ++ x :: rest) ++ [y] := by simpa using h
    exact Or.inr ⟨rest, (List.append_inj' regrouped rfl).1⟩

theorem InUse.append {found : List (Path × Run)} {id : String} (h : InUse found id)
    (more : List (Path × Run)) : InUse (found ++ more) id := by
  cases h with
  | declared member => exact .declared (List.mem_append_left more member)
  | renamed taken => rw [List.append_assoc, List.cons_append]; exact .renamed taken

theorem not_inUse_nil {id : String} : ¬ InUse [] id := by
  intro h
  generalize whole : ([] : List (Path × Run)) = all at h
  cases h with
  | declared member => simp [← whole] at member
  | renamed taken => simp at whole

theorem inUse_concat {found : List (Path × Run)} {dir : Path} {run : Run} {id : String} :
    InUse (found ++ [(dir, run)]) id ↔
      InUse found id ∨ id = run.id ∨ InUse found run.id ∧ id = distinctId run.id dir := by
  constructor
  · intro h
    generalize whole : found ++ [(dir, run)] = all at h
    cases h with
    | declared member =>
      rw [← whole, List.mem_append, List.mem_singleton, Prod.mk.injEq] at member
      rcases member with earlier | ⟨-, rfl⟩
      · exact Or.inl (.declared earlier)
      · exact Or.inr (Or.inl rfl)
    | renamed taken =>
      rcases split_concat whole with ⟨rfl, same⟩ | ⟨rest, rfl⟩
      · obtain ⟨rfl, rfl⟩ := Prod.mk.inj same
        exact Or.inr (Or.inr ⟨taken, rfl⟩)
      · exact Or.inl (.renamed taken)
  · rintro (earlier | rfl | ⟨taken, rfl⟩)
    · exact earlier.append _
    · have last : (dir, run) ∈ found ++ [(dir, run)] := List.mem_concat_self
      exact .declared last
    · exact .renamed taken

theorem renamesFresh_concat {found : List (Path × Run)} {dir : Path} {run : Run} :
    RenamesFresh (found ++ [(dir, run)]) ↔
      RenamesFresh found ∧ (InUse found run.id → ¬ InUse found (distinctId run.id dir)) := by
  constructor
  · intro fresh
    refine ⟨?_, fresh found dir run [] rfl⟩
    intro before dir' run' after same
    exact fresh before dir' run' (after ++ [(dir, run)]) (by simp [same])
  · rintro ⟨fresh, last⟩ before dir' run' after whole
    rcases split_concat whole with ⟨rfl, same⟩ | ⟨rest, same⟩
    · obtain ⟨rfl, rfl⟩ := Prod.mk.inj same
      exact last
    · exact fresh before dir' run' rest same

/-! ### The ids that a scan hands out -/

theorem Scanned.add_ids (scanned : Scanned) (dir : Path) (run : Run) :
    (scanned.add (dir, run)).ids =
      (if run.id ∈ scanned.ids then distinctId run.id dir else run.id) :: scanned.ids := by
  by_cases taken : run.id ∈ scanned.ids
  · simp [add, assignId, taken]
  · simp [add, assignId, taken]

theorem Scanned.map_id_collect (found : List (Path × Run)) :
    (collect found).runs.map Run.id = (collect found).ids := by
  induction found using List.reverseRecOn with
  | nil => rfl
  | append_singleton found last ih => rw [collect_concat, add, List.map_cons, ih]

/-- The order of the result does not matter for its ids. -/
theorem Scanned.nodup_sorted (found : List (Path × Run)) :
    ((Run.sortNewestFirst (collect found).runs.reverse).map Run.id).Nodup ↔
      (collect found).ids.Nodup := by
  have order := (Run.sortNewestFirst_perm (collect found).runs.reverse).trans (List.reverse_perm _)
  rw [(order.map Run.id).nodup_iff, map_id_collect]

theorem Scanned.mem_ids_collect {found : List (Path × Run)} {id : String} :
    id ∈ (collect found).ids ↔ InUse found id := by
  induction found using List.reverseRecOn generalizing id with
  | nil => exact iff_of_false List.not_mem_nil not_inUse_nil
  | append_singleton found last ih =>
    obtain ⟨dir, run⟩ := last
    rw [collect_concat, add_ids, List.mem_cons, inUse_concat]
    -- When the declared id is taken it is one of the earlier ids, so only the new one is added.
    by_cases taken : run.id ∈ (collect found).ids
    · rw [if_pos taken, ih]
      have used := ih.mp taken
      constructor
      · rintro (rfl | earlier)
        · exact Or.inr (Or.inr ⟨used, rfl⟩)
        · exact Or.inl earlier
      · rintro (earlier | rfl | ⟨-, rfl⟩)
        · exact Or.inr earlier
        · exact Or.inr used
        · exact Or.inl rfl
    · rw [if_neg taken, ih]
      have unused := mt ih.mpr taken
      simp only [unused, false_and, or_false]
      exact or_comm

theorem Scanned.nodup_ids_collect {found : List (Path × Run)} :
    (collect found).ids.Nodup ↔ RenamesFresh found := by
  induction found using List.reverseRecOn with
  | nil =>
    refine iff_of_true List.nodup_nil ?_
    intro before dir run after whole
    simp at whole
  | append_singleton found last ih =>
    obtain ⟨dir, run⟩ := last
    rw [collect_concat, add_ids, List.nodup_cons, renamesFresh_concat, ih, and_comm]
    -- A run that keeps its id is no repetition; one that is renamed may be.
    refine and_congr_right fun _ => ?_
    by_cases taken : run.id ∈ (collect found).ids
    · rw [if_pos taken, mem_ids_collect]
      exact ⟨fun unused _ => unused, fun unused => unused (mem_ids_collect.mp taken)⟩
    · rw [if_neg taken]
      exact iff_of_true taken fun used => absurd (mem_ids_collect.mpr used) taken

/-- The ids of a scan are distinct exactly if no run is renamed to an id in use. -/
theorem scan_ids_nodup_iff (fs : FileSystem) (root : Path) (options : ScanOptions) :
    ∃ runs, (scan fs root options).value = .ok runs ∧
      ((runs.map Run.id).Nodup ↔ RenamesFresh (foundRuns fs root options)) := by
  refine ⟨_, scan_value fs root options, ?_⟩
  rw [Scanned.nodup_sorted, Scanned.nodup_ids_collect]

/-! ### An id that looks like a renamed one -/

namespace Lookalike

def runNode (id : String) : Node :=
  .directory [
    ("artifacts", .directory [
      ("metadata.json", .file ("\x7b\"run_id\":\"" ++ id ++ "\"\x7d").toUTF8 ⟨0, 0⟩)]),
    ("reports", .directory [("report.json", .file "[]".toUTF8 ⟨0, 0⟩)])]

def tree : FileSystem where
  root := .directory [
    ("run-a", runNode "7 (run-c)"), ("run-b", runNode "7"), ("run-c", runNode "7")]
  working := []

theorem ids_collect : (Scanned.collect (foundRuns tree ⟨"."⟩ .default)).ids =
    ["7 (run-c)", "7", "7 (run-c)"] := by
  decide +kernel

end Lookalike

/-- The third run declares the id of the second and is renamed to the id of the first. -/
theorem scan_repeats_id :
    ¬ ∀ (fs : FileSystem) (root : Path) (options : ScanOptions) (runs : List Run),
      (scan fs root options).value = .ok runs → (runs.map Run.id).Nodup := by
  intro distinct
  have nodup := distinct Lookalike.tree ⟨"."⟩ .default _ (scan_value ..)
  rw [Scanned.nodup_sorted, Lookalike.ids_collect] at nodup
  exact absurd nodup (by decide)

end TestHistory
