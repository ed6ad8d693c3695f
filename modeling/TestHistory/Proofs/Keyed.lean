import Mathlib.Data.List.Nodup
import Mathlib.Data.String.Basic
import TestHistory.Keyed

/-!
# The keys of sorted entries

`put` keeps keys strictly increasing and adds none but its own, so the keys of `ofList` are those
of the list, in order and without repetition.
-/

namespace TestHistory.Keyed

variable {α : Type}

/-- Keys strictly increase. -/
def Sorted (entries : List (String × α)) : Prop :=
  (entries.map Prod.fst).Pairwise (· < ·)

instance (entries : List (String × α)) : Decidable (Sorted entries) :=
  inferInstanceAs (Decidable ((entries.map Prod.fst).Pairwise (· < ·)))

theorem mem_keys_put {key k : String} {a : α} {entries : List (String × α)} :
    k ∈ (put key a entries).map Prod.fst ↔ k = key ∨ k ∈ entries.map Prod.fst := by
  induction entries with
  | nil => simp [put]
  | cons entry entries ih =>
    obtain ⟨other, b⟩ := entry
    unfold put
    split
    · simp
    · split
      · rename_i same
        simp [same]
      · rw [List.map_cons, List.mem_cons, ih, List.map_cons, List.mem_cons]
        exact or_left_comm

theorem mem_of_mem_put {key : String} {a : α} {entry : String × α} {entries : List (String × α)}
    (member : entry ∈ put key a entries) : entry = (key, a) ∨ entry ∈ entries := by
  induction entries with
  | nil => exact Or.inl (List.mem_singleton.mp member)
  | cons first entries ih =>
    obtain ⟨other, b⟩ := first
    unfold put at member
    split at member
    · exact List.mem_cons.mp member
    · split at member
      · exact (List.mem_cons.mp member).imp_right (List.mem_cons_of_mem _)
      · rcases List.mem_cons.mp member with same | later
        · exact Or.inr (List.mem_cons.mpr (Or.inl same))
        · exact (ih later).imp_right (List.mem_cons_of_mem _)

theorem sorted_put {key : String} {a : α} {entries : List (String × α)} (sorted : Sorted entries) :
    Sorted (put key a entries) := by
  induction entries with
  | nil => simp [Sorted, put]
  | cons entry entries ih =>
    obtain ⟨other, b⟩ := entry
    obtain ⟨first, rest⟩ := List.pairwise_cons.mp sorted
    unfold put
    split
    · rename_i below
      refine List.pairwise_cons.mpr ⟨?_, sorted⟩
      intro k member
      rcases List.mem_cons.mp member with rfl | later
      · exact below
      · exact below.trans (first k later)
    · rename_i notBelow
      split
      · rename_i same
        subst same
        exact List.pairwise_cons.mpr ⟨first, rest⟩
      · rename_i different
        have above : other < key := lt_of_le_of_ne (not_lt.mp notBelow) (Ne.symm different)
        refine List.pairwise_cons.mpr ⟨?_, ih rest⟩
        intro k member
        rcases mem_keys_put.mp member with rfl | later
        · exact above
        · exact first k later

theorem mem_keys_putAll {k : String} {entries more : List (String × α)} :
    k ∈ (putAll entries more).map Prod.fst ↔
      k ∈ entries.map Prod.fst ∨ k ∈ more.map Prod.fst := by
  unfold putAll
  induction more generalizing entries with
  | nil => simp
  | cons entry more ih =>
    rw [List.foldl_cons, ih, mem_keys_put, List.map_cons, List.mem_cons, or_comm (a := k = _),
      or_assoc]

theorem sorted_putAll {entries more : List (String × α)} (sorted : Sorted entries) :
    Sorted (putAll entries more) := by
  unfold putAll
  induction more generalizing entries with
  | nil => exact sorted
  | cons entry more ih => exact ih (sorted_put sorted)

theorem mem_keys_ofList {k : String} {entries : List (String × α)} :
    k ∈ (ofList entries).map Prod.fst ↔ k ∈ entries.map Prod.fst := by
  rw [ofList, mem_keys_putAll, List.map_nil]
  simp

theorem sorted_ofList (entries : List (String × α)) : Sorted (ofList entries) :=
  sorted_putAll List.Pairwise.nil

/-! ### Look-ups -/

theorem isSome_lookup {k : String} {entries : List (String × α)} :
    (entries.lookup k).isSome = true ↔ k ∈ entries.map Prod.fst := by
  rw [List.lookup_isSome_iff]
  simp

theorem lookup_cons_other {key k : String} (different : k ≠ key) (a : α)
    (entries : List (String × α)) : ((key, a) :: entries).lookup k = entries.lookup k := by
  rw [List.lookup_cons, beq_false_of_ne different]

theorem lookup_put_other {key k : String} (different : k ≠ key) (a : α)
    (entries : List (String × α)) : (put key a entries).lookup k = entries.lookup k := by
  have skipped : (k == key) = false := by simpa using different
  induction entries with
  | nil => simp [put, List.lookup_cons, skipped]
  | cons entry entries ih =>
    obtain ⟨other, b⟩ := entry
    unfold put
    split
    · rw [List.lookup_cons, skipped]
    · split
      · rename_i same
        rw [← same, List.lookup_cons, List.lookup_cons, skipped]
      · rw [List.lookup_cons, List.lookup_cons, ih]

theorem lookup_putAll (k : String) (entries more : List (String × α)) :
    (putAll entries more).lookup k = (more.reverse.lookup k).or (entries.lookup k) := by
  unfold putAll
  induction more generalizing entries with
  | nil => rfl
  | cons entry more ih =>
    obtain ⟨key, a⟩ := entry
    rw [List.foldl_cons, ih, List.reverse_cons, List.lookup_append, Option.or_assoc]
    congr 1
    by_cases same : k = key
    · simp [same]
    · have skipped : (k == key) = false := by simpa using same
      simp [lookup_put_other same, List.lookup_cons, skipped]

/-- Of equal keys the last one counts. -/
theorem lookup_ofList (k : String) (entries : List (String × α)) :
    (ofList entries).lookup k = entries.reverse.lookup k := by
  rw [ofList, lookup_putAll]
  exact Option.or_none

theorem lookup_eq_some_of_unique {k : String} {a : α} {entries : List (String × α)}
    (member : (k, a) ∈ entries) (unique : ∀ b, (k, b) ∈ entries → b = a) :
    entries.lookup k = some a := by
  cases found : entries.lookup k with
  | none =>
    have absent := List.lookup_eq_none_iff.mp found (k, a) member
    simp at absent
  | some b =>
    obtain ⟨front, back, rfl, -⟩ := List.lookup_eq_some_iff.mp found
    rw [unique b List.mem_append_cons_self]

/-- No key has two values. -/
def Single (entries : List (String × α)) : Prop :=
  ∀ k a b, (k, a) ∈ entries → (k, b) ∈ entries → a = b

theorem single_of_nodup {entries : List (String × α)} (distinct : (entries.map Prod.fst).Nodup) :
    Single entries := fun _ _ _ member other =>
  congrArg Prod.snd (List.inj_on_of_nodup_map distinct member other rfl)

theorem Single.mem_iff_lookup {entries : List (String × α)} (single : Single entries) {k : String}
    {a : α} : (k, a) ∈ entries ↔ entries.lookup k = some a := by
  constructor
  · intro member
    exact lookup_eq_some_of_unique member fun b other => single k b a other member
  · intro found
    obtain ⟨front, back, rfl, -⟩ := List.lookup_eq_some_iff.mp found
    exact List.mem_append_cons_self

/-- Where no key has two values, the order of entries does not matter. -/
theorem Single.lookup_eq {entries entries' : List (String × α)} (single : Single entries)
    (same : ∀ entry, entry ∈ entries' ↔ entry ∈ entries) (k : String) :
    entries'.lookup k = entries.lookup k := by
  have single' : Single entries' := fun k a b member other =>
    single k a b ((same _).mp member) ((same _).mp other)
  refine Option.ext fun a => ?_
  rw [← single.mem_iff_lookup, ← single'.mem_iff_lookup, same]

/-- Without repeated keys, entries are known but for their order once their look-ups are. -/
theorem perm_of_lookup {entries entries' : List (String × α)}
    (distinct : (entries.map Prod.fst).Nodup) (distinct' : (entries'.map Prod.fst).Nodup)
    (same : ∀ k, entries.lookup k = entries'.lookup k) : entries.Perm entries' := by
  refine (List.perm_ext_iff_of_nodup (distinct.of_map _) (distinct'.of_map _)).mpr ?_
  rintro ⟨k, a⟩
  rw [(single_of_nodup distinct).mem_iff_lookup, (single_of_nodup distinct').mem_iff_lookup, same]

theorem Sorted.nodup {entries : List (String × α)} (sorted : Sorted entries) :
    (entries.map Prod.fst).Nodup :=
  sorted.imp ne_of_lt

theorem mem_iff_lookup {k : String} {a : α} {entries : List (String × α)} (sorted : Sorted entries) :
    (k, a) ∈ entries ↔ entries.lookup k = some a :=
  (single_of_nodup sorted.nodup).mem_iff_lookup

/-- The entries that are kept are those after which their key does not come again. -/
theorem mem_ofList_iff {k : String} {a : α} {entries : List (String × α)} :
    (k, a) ∈ ofList entries ↔
      ∃ front back, entries = front ++ (k, a) :: back ∧ ∀ entry ∈ back, entry.1 ≠ k := by
  rw [mem_iff_lookup (sorted_ofList entries), lookup_ofList, List.lookup_eq_some_iff]
  constructor
  · rintro ⟨back, front, same, absent⟩
    refine ⟨front.reverse, back.reverse, ?_, fun entry member => ?_⟩
    · simpa using List.reverse_eq_append_iff.mp same
    · exact (bne_iff_ne.mp (absent entry (List.mem_reverse.mp member))).symm
  · rintro ⟨front, back, rfl, absent⟩
    refine ⟨back.reverse, front.reverse, by simp, fun entry member => ?_⟩
    exact bne_iff_ne.mpr (absent entry (List.mem_reverse.mp member)).symm

theorem mem_of_mem_ofList {entry : String × α} {entries : List (String × α)}
    (member : entry ∈ ofList entries) : entry ∈ entries := by
  obtain ⟨front, back, rfl, -⟩ := mem_ofList_iff.mp member
  exact List.mem_append_cons_self

/-- Sorted entries are known once their look-ups are. -/
theorem Sorted.ext {entries entries' : List (String × α)} (sorted : Sorted entries)
    (sorted' : Sorted entries') (same : ∀ k, entries.lookup k = entries'.lookup k) :
    entries = entries' := by
  have perm := perm_of_lookup sorted.nodup sorted'.nodup same
  have ordered : entries.Pairwise fun a b => a.1 < b.1 := List.pairwise_map.mp sorted
  have ordered' : entries'.Pairwise fun a b => a.1 < b.1 := List.pairwise_map.mp sorted'
  refine perm.eq_of_pairwise ?_ ordered ordered'
  intro a b _ _ below above
  exact absurd below (lt_asymm above)

/-- Without repeated keys it does not matter from which end one looks. -/
theorem Sorted.lookup_reverse {entries : List (String × α)} (sorted : Sorted entries) (k : String) :
    entries.reverse.lookup k = entries.lookup k :=
  (single_of_nodup sorted.nodup).lookup_eq (fun _ => List.mem_reverse) k

/-- Entries that are sorted already stay as they are. -/
theorem Sorted.ofList_eq {entries : List (String × α)} (sorted : Sorted entries) :
    ofList entries = entries := by
  refine (sorted_ofList entries).ext sorted fun k => ?_
  rw [lookup_ofList, sorted.lookup_reverse]

/-! ### Elements with keys -/

/-- Where keys are distinct, a search by key finds the element with the key. -/
theorem find?_eq_some_iff_mem {key : α → String} {l : List α} (distinct : (l.map key).Nodup)
    {k : String} {a : α} : l.find? (fun b => key b = k) = some a ↔ a ∈ l ∧ key a = k := by
  constructor
  · intro found
    exact ⟨List.mem_of_find?_eq_some found, by simpa using List.find?_some found⟩
  · rintro ⟨member, rfl⟩
    cases found : l.find? fun b => key b = key a with
    | none =>
      have absent := List.find?_eq_none.mp found a member
      simp at absent
    | some b =>
      have same : key b = key a := by simpa using List.find?_some found
      rw [List.inj_on_of_nodup_map distinct (List.mem_of_find?_eq_some found) member same]

/-- What is left of a list, seen by the keys of the results. -/
theorem map_filterMap_sublist {β : Type} {f : α → Option β} {key : β → α} (l : List α)
    (keyed : ∀ a b, f a = some b → key b = a) : ((l.filterMap f).map key).Sublist l := by
  induction l with
  | nil => exact List.Sublist.refl []
  | cons a l ih =>
    rw [List.filterMap_cons]
    cases image : f a with
    | none => exact ih.cons a
    | some b =>
      rw [List.map_cons, keyed a b image]
      exact ih.cons_cons a

end TestHistory.Keyed
