import TestHistory.Proofs.Layers

/-!
# Settings in any order

A value is flattened into a dictionary before its settings are set, and a hash map lists the entries
of a dictionary in no fixed order. `orderFree_iff` says when that order does not matter: paths with
one normal form must have one text.
-/

namespace TestHistory

namespace Keyed

variable {α : Type}

theorem lastOnly_sublist (entries : List (String × α)) : (lastOnly entries).Sublist entries := by
  induction entries with
  | nil => exact .slnil
  | cons entry entries ih =>
    unfold lastOnly
    split
    · exact ih.cons entry
    · exact ih.cons_cons entry

theorem nodup_lastOnly (entries : List (String × α)) :
    ((lastOnly entries).map Prod.fst).Nodup := by
  induction entries with
  | nil => exact List.nodup_nil
  | cons entry entries ih =>
    unfold lastOnly
    split
    · exact ih
    · rename_i once
      have once' := mt (((lastOnly_sublist entries).map Prod.fst).subset ·) once
      exact List.nodup_cons.mpr ⟨once', ih⟩

/-- Under other keys too, the last entry is the one that is kept. -/
theorem lookup_lastOnly (rename : String → String) (entries : List (String × α)) (k : String) :
    ((lastOnly entries).map (Prod.map rename id)).reverse.lookup k =
      (entries.map (Prod.map rename id)).reverse.lookup k := by
  induction entries with
  | nil => rfl
  | cons entry entries ih =>
    unfold lastOnly
    split
    · rename_i again
      -- The entry that is left out is not found: its key comes again, renamed or not.
      rw [ih, List.map_cons, List.reverse_cons, List.lookup_append]
      by_cases same : k = rename entry.1
      · have found : ((entries.map (Prod.map rename id)).reverse.lookup k).isSome = true := by
          rw [isSome_lookup, same, List.map_reverse, List.mem_reverse, List.map_map]
          have renamed := List.mem_map_of_mem (f := rename) again
          rwa [List.map_map] at renamed
        obtain ⟨a, found⟩ := Option.isSome_iff_exists.mp found
        rw [found, Option.some_or]
      · rw [Prod.map, lookup_cons_other same, List.lookup_nil, Option.or_none]
    · rw [List.map_cons, List.reverse_cons, List.lookup_append, ih, List.map_cons,
        List.reverse_cons, List.lookup_append]

theorem lastOnly_perm (entries : List (String × α)) : (lastOnly entries).Perm (ofList entries) := by
  have nodup := nodup_lastOnly entries
  refine perm_of_lookup nodup (sorted_ofList entries).nodup fun k => ?_
  have same := lookup_lastOnly id entries k
  rw [Prod.map_id, List.map_id, List.map_id] at same
  rw [lookup_ofList, ← same]
  exact ((single_of_nodup nodup).lookup_eq (fun _ => List.mem_reverse) k).symm

end Keyed

namespace Layer

/-- The dictionary of the value, in some order. -/
def Enumerates (order : List (String × String)) (value : Yaml.Value) : Prop :=
  order.Perm (dictionary value)

/-- In the order of the document, later settings overwrite earlier ones. -/
theorem ofYaml_document (value : Yaml.Value) : ofYaml value = ofList (flatten "" value) := by
  refine ofList_ext fun key => ?_
  rw [lookup_ofList, lookup_ofList]
  exact Keyed.lookup_lastOnly normalizeKey _ key

theorem enumerates_list (hash : HashOrder) (value : Yaml.Value) :
    Enumerates (hash.list (Keyed.lastOnly (flatten "" value))) value :=
  (hash.perm _).trans (Keyed.lastOnly_perm _)

/-- A hash map that lists these entries in a certain way, and all others as they come. -/
def HashOrder.only (entries order : List (String × String)) (perm : order.Perm entries) :
    HashOrder where
  list other := if other = entries then order else other
  perm other := by
    split
    · rename_i same
      exact same ▸ perm
    · exact .refl other

theorem HashOrder.list_only {entries order : List (String × String)} (perm : order.Perm entries) :
    (HashOrder.only entries order perm).list entries = order :=
  if_pos rfl

/-- The layers that are made of a value are those of its enumerations. -/
theorem exists_ofYaml_iff {value : Yaml.Value} {layer : Layer} :
    (∃ hash, ofYaml value hash = layer) ↔
      ∃ order, Enumerates order value ∧ ofList order = layer := by
  constructor
  · rintro ⟨hash, rfl⟩
    exact ⟨_, enumerates_list hash value, rfl⟩
  · rintro ⟨order, enumerates, rfl⟩
    have perm := enumerates.trans (Keyed.lastOnly_perm (flatten "" value)).symm
    exact ⟨.only _ order perm, congrArg ofList (HashOrder.list_only perm)⟩

theorem lookup_ofList_concat (settings : List (String × String)) (setting : String × String) :
    (ofList (settings ++ [setting])).entries.lookup (normalizeKey setting.1) = some setting.2 := by
  rw [lookup_ofList, List.map_append, List.reverse_append]
  exact List.lookup_cons_self

theorem exists_enumerates_concat {value : Yaml.Value} {setting : String × String}
    (member : setting ∈ dictionary value) : ∃ front, Enumerates (front ++ [setting]) value :=
  ⟨(dictionary value).erase setting,
    List.perm_append_singleton _ _ |>.trans (List.perm_cons_erase member).symm⟩

/-- No order of the value's settings makes another layer than any other order. -/
def OrderFree (value : Yaml.Value) : Prop :=
  ∀ order order', Enumerates order value → Enumerates order' value → ofList order = ofList order'

theorem OrderFree.ofYaml_eq {value : Yaml.Value} (free : OrderFree value)
    (hash hash' : HashOrder) : ofYaml value hash = ofYaml value hash' :=
  free _ _ (enumerates_list hash value) (enumerates_list hash' value)

theorem OrderFree.single {value : Yaml.Value} (agree : OrderFree value) :
    Keyed.Single ((dictionary value).map normalize) := by
  intro key text text' member member'
  obtain ⟨setting, listed, named⟩ := List.mem_map.mp member
  obtain ⟨setting', listed', named'⟩ := List.mem_map.mp member'
  -- Each of the two settings is the last one in some order.
  obtain ⟨front, enumerates⟩ := exists_enumerates_concat listed
  obtain ⟨front', enumerates'⟩ := exists_enumerates_concat listed'
  have last := lookup_ofList_concat front setting
  have last' := lookup_ofList_concat front' setting'
  obtain ⟨rfl, rfl⟩ := Prod.mk.inj named
  obtain ⟨same, rfl⟩ := Prod.mk.inj named'
  rw [agree _ _ enumerates enumerates', ← same, last'] at last
  exact (Option.some.inj last).symm

theorem orderFree_of_single {value : Yaml.Value}
    (single : Keyed.Single ((dictionary value).map normalize)) : OrderFree value := by
  intro order order' enumerates enumerates'
  have members {order : List (String × String)} (enumerates : Enumerates order value)
      (setting : String × String) :
      setting ∈ (order.map normalize).reverse ↔ setting ∈ (dictionary value).map normalize :=
    List.mem_reverse.trans (enumerates.map normalize).mem_iff
  refine ofList_ext fun key => ?_
  rw [lookup_ofList, lookup_ofList, single.lookup_eq (members enumerates),
    single.lookup_eq (members enumerates')]

/-- The settings of a document come in any of the orders; every order makes the same layer exactly
if no two texts stand under keys with one normal form. -/
theorem orderFree_iff (value : Yaml.Value) :
    (∀ layer, (∃ hash, ofYaml value hash = layer) ↔
      ∃ order, Enumerates order value ∧ ofList order = layer) ∧
      (OrderFree value ↔ Keyed.Single ((dictionary value).map normalize)) :=
  ⟨fun _ => exists_ofYaml_iff, OrderFree.single, orderFree_of_single⟩

/-- Two spellings of one setting, with different texts. -/
def spelledTwice : Yaml.Value :=
  .mapping [(.string "run_prefix", .string "a-"), (.string "run-prefix", .string "b-")]

theorem not_orderFree_spelledTwice : ¬ OrderFree spelledTwice := by
  intro free
  have listed : dictionary spelledTwice = [("run-prefix", "b-"), ("run_prefix", "a-")] := by
    decide +kernel
  have hyphen : normalizeKey "run-prefix" = "run-prefix" := by decide +kernel
  have underscore : normalizeKey "run_prefix" = "run-prefix" := by decide +kernel
  have single := free.single "run-prefix" "b-" "a-"
  simp only [listed, List.map_cons, List.map_nil, normalize, hyphen, underscore] at single
  exact absurd (single List.mem_cons_self (.tail _ List.mem_cons_self)) (by decide)

end Layer

end TestHistory
