import Mathlib.Data.List.Perm.Subperm
import Mathlib.Data.Prod.Lex
import TestHistory.Proofs.ByteOrder
import TestHistory.Proofs.EditDistance
import TestHistory.Proofs.PairChoice
import TestHistory.Proofs.Sorting

/-!
# Suggested ids

An id that no run has is answered with the ids closest to it. `ClosestIds` says which of them are
suggested and in which order, and `Failure.Suggests` what a failure tells of them: they stand in its
data and in its hint, and without any the hint lists all ids.
-/

namespace TestHistory

def idDistance (searched id : String) : Nat :=
  Text.distance searched.toList id.toList

/-- Three edits away at most. -/
def isNear (searched id : String) : Bool :=
  idDistance searched id ≤ 3

/-- Fewer edits away, or as many and first in bytes. -/
def Nearer (searched a b : String) : Prop :=
  idDistance searched a < idDistance searched b ∨
    idDistance searched a = idDistance searched b ∧ Text.bytes a < Text.bytes b

/-- As many of the near ids as there may be, the nearest first; no id that is left out is nearer. -/
structure ClosestIds (searched : String) (existing : List String) (most : Nat) (ids : List String) :
    Prop where
  length : ids.length = min most (existing.countP (isNear searched))
  ascending : ids.Pairwise fun a b => ¬ Nearer searched b a
  subperm : ids.Subperm existing
  closest : ∃ leftOut, (ids ++ leftOut).Perm (existing.filter (isNear searched)) ∧
    ∀ id ∈ ids, ∀ other ∈ leftOut, ¬ Nearer searched other id

/-- The text of a hint, for the suggestions that it names. -/
inductive HintNames (available : List String) : List String → String → Prop where
  | only (id : String) : HintNames available [id] ("Did you mean '" ++ id ++ "'?")
  | several {ids : List String} : 2 ≤ ids.length →
    HintNames available ids ("Did you mean one of: " ++ ", ".intercalate ids ++ "?")
  | all : HintNames available [] ("Available runs: " ++ ", ".intercalate available)

/-- The failure suggests ids for the searched one, which is none of them. -/
structure Failure.Suggests (f : Failure) (searched : String) (available ids : List String) :
    Prop where
  closest : ClosestIds searched available 3 ids
  others : searched ∉ ids
  context : ∃ fields, f.context = some (.object fields) ∧
    fields.lookup "similar_ids" = some (Json.ofStrings ids)
  hint : ∃ text, f.hint = some text ∧ HintNames available ids text

/-! ### The nearest ids -/

theorem byKey_closer : Sorting.ByKey (fun c : Nat × String => toLex c) closer := by
  intro a b
  rw [closer, Ordering.isLE_then_iff_or, compare_lt_iff_lt, compare_eq_iff_eq,
    Std.LawfulBCmp.isLE_iff_le, Prod.Lex.toLex_le_toLex]

/-- All near ids with their distances, sorted. -/
def candidates (searched : String) (existing : List String) : List (Nat × String) :=
  ((existing.filter (isNear searched)).map fun id => (idDistance searched id, id)).mergeSort closer

def ranking (searched : String) (existing : List String) : List String :=
  (candidates searched existing).map Prod.snd

section

variable {searched : String} {existing : List String}

theorem distance_of_candidate {c : Nat × String} (member : c ∈ candidates searched existing) :
    c.1 = idDistance searched c.2 := by
  rw [candidates, List.mem_mergeSort, List.mem_map] at member
  obtain ⟨id, -, rfl⟩ := member
  rfl

theorem ranking_perm (searched : String) (existing : List String) :
    (ranking searched existing).Perm (existing.filter (isNear searched)) := by
  have sorted := (List.mergeSort_perm ((existing.filter (isNear searched)).map
    fun id => (idDistance searched id, id)) closer).map Prod.snd
  rw [List.map_map, Function.comp_def, List.map_id'] at sorted
  exact sorted

theorem ranking_ascending (searched : String) (existing : List String) :
    (ranking searched existing).Pairwise fun a b => ¬ Nearer searched b a := by
  have ascending := Sorting.ascending_mergeSort byKey_closer
    ((existing.filter (isNear searched)).map fun id => (idDistance searched id, id))
  rw [ranking, List.pairwise_map]
  refine ascending.imp_of_mem ?_
  intro a b memA memB le nearer
  have distanceA := distance_of_candidate memA
  have distanceB := distance_of_candidate memB
  have less : toLex b < toLex a := by
    rw [Prod.Lex.toLex_lt_toLex, distanceA, distanceB, ← Text.bytes_lt_iff]
    exact nearer
  exact absurd le (not_le_of_gt less)

theorem similarIds_eq (most : Nat) :
    similarIds searched existing most = (ranking searched existing).take most := by
  have near : (existing.map fun id => (Text.editDistance searched id, id)).filter (·.1 ≤ 3) =
      (existing.filter (isNear searched)).map fun id => (idDistance searched id, id) := by
    simp only [Text.editDistance_eq, List.filter_map]
    rfl
  rw [similarIds, near, ranking, List.map_take]
  rfl

theorem closestIds_similarIds (most : Nat) :
    ClosestIds searched existing most (similarIds searched existing most) := by
  have perm := ranking_perm searched existing
  have ascending := ranking_ascending searched existing
  rw [similarIds_eq]
  constructor
  case length => rw [List.length_take, perm.length_eq, List.countP_eq_length_filter]
  case ascending => exact ascending.sublist (List.take_sublist ..)
  case subperm =>
    exact (List.take_sublist ..).subperm.trans (perm.subperm.trans List.filter_sublist.subperm)
  case closest =>
    rw [← List.take_append_drop most (ranking searched existing)] at perm ascending
    exact ⟨_, perm, (List.pairwise_append.mp ascending).2.2⟩

end

/-! ### Failures -/

/-- What the user can mend ends the program with 2, a choice of runs, or 7, the configuration. -/
theorem Failure.isRecoverable_iff (f : Failure) :
    f.isRecoverable ↔ f.code.exitCode ∈ [2, 7] := by
  cases f <;> simp [isRecoverable, code, FailureCode.exitCode]

/-- Only to what the user can mend is there a hint. -/
theorem Failure.isRecoverable_of_hint {f : Failure} {text : String} (told : f.hint = some text) :
    f.isRecoverable := by
  cases f with
  | runNotFound | sameRun | notEnoughRuns | config => rfl
  | writeReport | io | json | yaml | other => exact nomatch told

theorem hint_names {id : String} {available : List String} (present : available ≠ []) :
    ∃ text, (Failure.runNotFound id available).hint = some text ∧
      HintNames available (similarIds id available 3) text := by
  change ∃ text, Failure.missingRunHint id available = some text ∧ _
  rw [Failure.missingRunHint, maxSuggestions]
  match similarIds id available 3 with
  | [] => exact ⟨_, if_neg (by simpa using present), .all⟩
  | [only] => exact ⟨_, rfl, .only only⟩
  | first :: second :: rest => exact ⟨_, rfl, .several (by simp)⟩

theorem ids_ne_nil {runs : List Run} (enough : 2 ≤ runs.length) : runs.map Run.id ≠ [] := by
  intro none
  simp [List.map_eq_nil_iff.mp none] at enough

/-- The user can mend every choice of runs that fails, and is told how. -/
theorem resolvePair_recoverable {runs : List Run} {base head : Option String} {f : Failure}
    (failed : resolvePair runs base head = .error f) :
    f.isRecoverable ∧ f.code.exitCode = 2 ∧ ∃ text, f.hint = some text := by
  cases resolvePair_eq_iff.mp failed with
  | notEnough | same => exact ⟨rfl, rfl, _, rfl⟩
  | baseMissing enough | headMissing enough =>
    obtain ⟨text, told, -⟩ := hint_names (ids_ne_nil enough)
    exact ⟨rfl, rfl, text, told⟩

theorem suggests_of_missing {id : String} {available : List String} (missing : id ∉ available)
    (present : available ≠ []) :
    (Failure.runNotFound id available).Suggests id available (similarIds id available 3) where
  closest := closestIds_similarIds 3
  others member := missing ((closestIds_similarIds 3).subperm.subset member)
  context := ⟨_, rfl, rfl⟩
  hint := hint_names present

/-- Suggestions are the closest ids, and whenever a run is not found its failure suggests them. -/
theorem similarIds_suggested :
    (∀ searched existing most,
        ClosestIds searched existing most (similarIds searched existing most)) ∧
      ∀ runs base head searched available,
        resolvePair runs base head = .error (.runNotFound searched available) →
          (Failure.runNotFound searched available).Suggests searched (runs.map Run.id)
            (similarIds searched available 3) := by
  refine ⟨fun _ _ => closestIds_similarIds, ?_⟩
  intro runs base head searched available failed
  obtain ⟨enough, missing, rfl⟩ := of_notFound failed
  exact suggests_of_missing missing (ids_ne_nil enough)

namespace Mistyped

def runs : List Run :=
  [.bare "0301-1300" [], .bare "0301-1200" [], .bare "0209-0900" []]

end Mistyped

theorem similarIds_suggested_mistyped :
    resolvePair Mistyped.runs none (some "0301-1201") =
        .error (.runNotFound "0301-1201" ["0301-1300", "0301-1200", "0209-0900"]) ∧
      (Failure.runNotFound "0301-1201" ["0301-1300", "0301-1200", "0209-0900"]).Suggests "0301-1201"
        ["0301-1300", "0301-1200", "0209-0900"] ["0301-1200", "0301-1300"] := by
  have failed : resolvePair Mistyped.runs none (some "0301-1201") =
      .error (.runNotFound "0301-1201" ["0301-1300", "0301-1200", "0209-0900"]) := rfl
  have ids : similarIds "0301-1201" ["0301-1300", "0301-1200", "0209-0900"] 3 =
      ["0301-1200", "0301-1300"] := by
    have near : (["0301-1300", "0301-1200", "0209-0900"].map fun id =>
        (Text.editDistance "0301-1201" id, id)).filter (·.1 ≤ 3) =
          [(2, "0301-1300"), (1, "0301-1200")] := by
      decide +kernel
    have order : closer (2, "0301-1300") (1, "0301-1200") = false := by decide
    rw [similarIds, near]
    simp [List.mergeSort, order]
  have suggests := similarIds_suggested.2 Mistyped.runs none (some "0301-1201") _ _ failed
  rw [ids] at suggests
  exact ⟨failed, suggests⟩

end TestHistory
