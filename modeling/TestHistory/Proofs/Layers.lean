import Mathlib.Data.List.Induction
import TestHistory.Proofs.Keyed
import TestHistory.Settings.Layer

/-!
# Layers and their look-ups

Settings that are set one after the other stand under their normalized keys, the last one of each
key (`entries_ofList`). In merged layers the highest layer that has a key counts (`get?_mergeAll`).
-/

namespace TestHistory.Layer

/-- A setting under the normal form of its key. -/
def normalize (setting : String × String) : String × String :=
  (normalizeKey setting.1, setting.2)

theorem entries_foldl_insert (settings : List (String × String)) (l : Layer) :
    (settings.foldl (fun l (key, value) => l.insert key value) l).entries =
      Keyed.putAll l.entries (settings.map normalize) := by
  induction settings generalizing l with
  | nil => rfl
  | cons setting settings ih =>
    rw [List.foldl_cons, ih]
    rfl

theorem entries_ofList (settings : List (String × String)) :
    (ofList settings).entries = Keyed.ofList (settings.map normalize) :=
  entries_foldl_insert settings empty

theorem sorted_ofList (settings : List (String × String)) :
    Keyed.Sorted (ofList settings).entries :=
  entries_ofList settings ▸ Keyed.sorted_ofList _

theorem lookup_ofList (settings : List (String × String)) (key : String) :
    (ofList settings).entries.lookup key = (settings.map normalize).reverse.lookup key := by
  rw [entries_ofList, Keyed.lookup_ofList]

/-- Layers of settings are known by their look-ups. -/
theorem ofList_ext {settings settings' : List (String × String)}
    (same : ∀ key, (ofList settings).entries.lookup key = (ofList settings').entries.lookup key) :
    ofList settings = ofList settings' :=
  congrArg mk ((sorted_ofList settings).ext (sorted_ofList settings') same)

/-! ### Merged layers -/

theorem get?_merge (l : Layer) {other : Layer} (sorted : Keyed.Sorted other.entries) (key : String) :
    (l.merge other).get? key = (other.get? key).or (l.get? key) := by
  rw [get?, merge, Keyed.lookup_putAll, sorted.lookup_reverse]
  rfl

theorem mergeAll_concat (layers : List Layer) (highest : Layer) :
    mergeAll (layers ++ [highest]) = (mergeAll layers).merge highest :=
  List.foldl_concat ..

theorem get?_mergeAll {layers : List Layer} (sorted : ∀ l ∈ layers, Keyed.Sorted l.entries)
    (key : String) : (mergeAll layers).get? key = layers.reverse.findSome? (·.get? key) := by
  induction layers using List.reverseRecOn with
  | nil => rfl
  | append_singleton layers highest ih =>
    obtain ⟨lower, last⟩ := List.forall_mem_append.mp sorted
    rw [mergeAll_concat, get?_merge _ (last highest List.mem_cons_self), ih lower,
      List.reverse_concat, List.findSome?_cons]
    cases highest.get? key <;> rfl

end TestHistory.Layer
