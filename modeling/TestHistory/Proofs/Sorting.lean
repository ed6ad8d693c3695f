import Mathlib.Data.List.Nodup
import Mathlib.Data.List.Perm.Basic
import Mathlib.Data.List.SplitBy
import Mathlib.Order.Lattice

/-!
# Stable sorting

A merge sort by a key keeps the order of elements with equal keys. This pins its result down
(`eq_mergeSort`): the keys ascend, and the elements of every key stand as they stood before. A list
whose keys descend is turned around group by group (`mergeSort_of_descending`).
-/

namespace TestHistory.Sorting

variable {α β : Type} [LinearOrder β]

/-- The comparison goes by a key. -/
def ByKey (key : α → β) (le : α → α → Bool) : Prop :=
  ∀ a b, le a b = true ↔ key a ≤ key b

/-- The elements with a key, in order. -/
def withKey (key : α → β) (k : β) (l : List α) : List α :=
  l.filter fun a => key a = k

section

variable {key : α → β} {le : α → α → Bool} (byKey : ByKey key le)

include byKey

theorem ByKey.trans (a b c : α) (ab : le a b = true) (bc : le b c = true) : le a c = true :=
  (byKey a c).mpr (((byKey a b).mp ab).trans ((byKey b c).mp bc))

theorem ByKey.total (a b : α) : (le a b || le b a) = true := by
  rw [Bool.or_eq_true, byKey, byKey]
  exact le_total (key a) (key b)

theorem ascending_mergeSort (l : List α) : (l.mergeSort le).Pairwise fun a b => key a ≤ key b :=
  (List.pairwise_mergeSort byKey.trans byKey.total l).imp fun {a b} => (byKey a b).mp

/-- Elements with equal keys keep their order. -/
theorem withKey_mergeSort (k : β) (l : List α) :
    withKey key k (l.mergeSort le) = withKey key k l := by
  have level : (withKey key k l).Pairwise fun a b => le a b = true := by
    rw [List.pairwise_iff_forall_sublist]
    intro a b pair
    have memA : a ∈ withKey key k l := pair.subset List.mem_cons_self
    have memB : b ∈ withKey key k l := pair.subset (List.mem_cons_of_mem a List.mem_cons_self)
    have keyA : key a = k := by simpa using (List.mem_filter.mp memA).2
    have keyB : key b = k := by simpa using (List.mem_filter.mp memB).2
    exact (byKey a b).mpr (by rw [keyA, keyB])
  -- The elements of a key are a sorted part of the list, so they stay a part of the result.
  have kept := (List.sublist_mergeSort byKey.trans byKey.total level List.filter_sublist).filter
    fun a => key a = k
  have same : (withKey key k l).length = (withKey key k (l.mergeSort le)).length :=
    ((List.mergeSort_perm l le).filter _).length_eq.symm
  rw [withKey, List.filter_filter] at kept
  simp only [Bool.and_self] at kept
  exact (kept.eq_of_length same).symm

/-- The order by key, then by the order before. -/
theorem pairwise_mergeSort {R : α → α → Prop} {l : List α} (before : l.Pairwise R) :
    (l.mergeSort le).Pairwise fun a b => key a < key b ∨ key a = key b ∧ R a b := by
  rw [List.pairwise_iff_forall_sublist]
  intro a b pair
  have ascending : key a ≤ key b :=
    List.pairwise_iff_forall_sublist.mp (ascending_mergeSort byKey l) pair
  rcases ascending.lt_or_eq with below | same
  · exact Or.inl below
  · refine Or.inr ⟨same, ?_⟩
    have level : [a, b].Sublist (withKey key (key b) (l.mergeSort le)) := by
      have kept := pair.filter fun x => key x = key b
      rwa [List.filter_eq_self.mpr (by simp [same])] at kept
    rw [withKey_mergeSort byKey] at level
    exact List.pairwise_iff_forall_sublist.mp before (level.trans List.filter_sublist)

end

/-! ### What a stable sort gives -/

theorem mem_of_withKey {key : α → β} {l l' : List α}
    (same : ∀ k, withKey key k l = withKey key k l') {a : α} (member : a ∈ l) : a ∈ l' := by
  have kept : a ∈ withKey key (key a) l := List.mem_filter.mpr ⟨member, decide_eq_true rfl⟩
  rw [same] at kept
  exact (List.mem_filter.mp kept).1

theorem eq_of_withKey {key : α → β} {l l' : List α} (ascending : l.Pairwise fun a b => key a ≤ key b)
    (ascending' : l'.Pairwise fun a b => key a ≤ key b)
    (same : ∀ k, withKey key k l = withKey key k l') : l = l' := by
  induction l generalizing l' with
  | nil =>
    cases l' with
    | nil => rfl
    | cons b l' => exact absurd (mem_of_withKey (fun k => (same k).symm) List.mem_cons_self) (by simp)
  | cons a l ih =>
    cases l' with
    | nil => exact absurd (mem_of_withKey same List.mem_cons_self) (by simp)
    | cons b l' =>
      obtain ⟨leastA, rest⟩ := List.pairwise_cons.mp ascending
      obtain ⟨leastB, rest'⟩ := List.pairwise_cons.mp ascending'
      have boundA : ∀ x ∈ a :: l, key a ≤ key x := List.forall_mem_cons.mpr ⟨le_rfl, leastA⟩
      have boundB : ∀ x ∈ b :: l', key b ≤ key x := List.forall_mem_cons.mpr ⟨le_rfl, leastB⟩
      -- Each head occurs in the other list, so their keys bound each other.
      have keys : key a = key b := le_antisymm
        (boundA b (mem_of_withKey (fun k => (same k).symm) List.mem_cons_self))
        (boundB a (mem_of_withKey same List.mem_cons_self))
      have heads := same (key a)
      rw [withKey, withKey, List.filter_cons_of_pos (by simp),
        List.filter_cons_of_pos (by simp [keys])] at heads
      obtain ⟨rfl, -⟩ := List.cons.inj heads
      refine congrArg (a :: ·) (ih rest rest' fun k => ?_)
      have level := same k
      rw [withKey, withKey, List.filter_cons, List.filter_cons] at level
      split at level
      · exact (List.cons.inj level).2
      · exact level

/-- Ascending keys, with the elements of each key in their old order: this is what a merge sort
gives, and nothing else is. -/
theorem eq_mergeSort {key : α → β} {le : α → α → Bool} (byKey : ByKey key le) {l l' : List α}
    (ascending : l'.Pairwise fun a b => key a ≤ key b)
    (same : ∀ k, withKey key k l' = withKey key k l) : l' = l.mergeSort le :=
  eq_of_withKey ascending (ascending_mergeSort byKey l) fun k =>
    (same k).trans (withKey_mergeSort byKey k l).symm

theorem filter_mergeSort {key : α → β} {le : α → α → Bool} (byKey : ByKey key le) (kept : α → Bool)
    (l : List α) : (l.mergeSort le).filter kept = (l.filter kept).mergeSort le := by
  refine eq_mergeSort byKey ((ascending_mergeSort byKey l).filter _) fun k => ?_
  rw [withKey, withKey, List.filter_comm _ kept, List.filter_comm _ kept l]
  exact congrArg (List.filter kept) (withKey_mergeSort byKey k l)

/-- The last element of a sorted list is the last one that had the greatest key. -/
theorem getLast?_mergeSort {key : α → β} {le : α → α → Bool} (byKey : ByKey key le) {l : List α}
    {greatest : α} (member : greatest ∈ l) (bounded : ∀ a ∈ l, key a ≤ key greatest) :
    (l.mergeSort le).getLast? = (withKey key (key greatest) l).getLast? := by
  have perm := List.mergeSort_perm l le
  have ascending := ascending_mergeSort byKey l
  rw [← withKey_mergeSort byKey]
  rcases List.eq_nil_or_concat (l.mergeSort le) with empty | ⟨front, last, whole⟩
  · rw [empty] at perm
    exact absurd (perm.mem_iff.mpr member) List.not_mem_nil
  · rw [List.concat_eq_append] at whole
    rw [whole] at perm ascending ⊢
    obtain ⟨-, -, below⟩ := List.pairwise_append.mp ascending
    have reaches : key greatest ≤ key last := by
      rcases List.mem_append.mp (perm.mem_iff.mpr member) with inFront | isLast
      · exact below greatest inFront last (List.mem_singleton.mpr rfl)
      · rw [List.mem_singleton.mp isLast]
    have top : key last = key greatest :=
      le_antisymm (bounded last (perm.mem_iff.mp (by simp))) reaches
    rw [withKey, List.filter_append, List.filter_cons_of_pos (by simpa using top)]
    simp

/-- With distinct keys the result does not depend on the order before. -/
theorem mergeSort_eq_of_perm {key : α → β} {le : α → α → Bool} (byKey : ByKey key le)
    {l l' : List α} (distinct : (l.map key).Nodup) (perm : l'.Perm l) :
    l'.mergeSort le = l.mergeSort le := by
  have sorted := List.mergeSort_perm l le
  have sorted' := (List.mergeSort_perm l' le).trans perm
  refine List.Perm.eq_of_pairwise ?_ (ascending_mergeSort byKey l') (ascending_mergeSort byKey l)
    (sorted'.trans sorted.symm)
  intro a b memA memB below above
  exact List.inj_on_of_nodup_map distinct (sorted'.mem_iff.mp memA) (sorted.mem_iff.mp memB)
    (le_antisymm below above)

/-! ### Descending keys -/

theorem flatten_reverse_of_single {groups : List (List α)}
    (single : groups.Pairwise fun g h => g = [] ∨ h = []) :
    groups.reverse.flatten = groups.flatten := by
  induction groups with
  | nil => rfl
  | cons g groups ih =>
    obtain ⟨others, rest⟩ := List.pairwise_cons.mp single
    rw [List.reverse_cons, List.flatten_append, List.flatten_singleton, ih rest, List.flatten_cons]
    by_cases empty : g = []
    · simp [empty]
    · have blank : groups.flatten = [] :=
        List.flatten_eq_nil_iff.mpr fun h member => (others h member).resolve_left empty
      simp [blank]

/-- The neighbours with equal keys, group by group. -/
def groups (key : α → β) (l : List α) : List (List α) :=
  l.splitBy fun a b => key a = key b

theorem keys_of_group {key : α → β} {l g : List α} (member : g ∈ groups key l) :
    ∀ a ∈ g, ∀ b ∈ g, key a = key b := by
  have chain := List.isChain_of_mem_splitBy member
  simp only [decide_eq_true_eq] at chain
  have : IsTrans α fun a b => key a = key b := ⟨fun _ _ _ => Eq.trans⟩
  have : Std.Symm fun a b => key a = key b := ⟨fun _ _ => Eq.symm⟩
  intro a memA b memB
  exact List.Pairwise.forall_of_forall (R := fun a b => key a = key b) (fun _ _ => rfl)
    chain.pairwise memA memB

theorem key_lt_of_border {key : α → β} {g h : List α} (levelG : ∀ a ∈ g, ∀ b ∈ g, key a = key b)
    (levelH : ∀ a ∈ h, ∀ b ∈ h, key a = key b) (bound : ∀ a ∈ g, ∀ b ∈ h, key b ≤ key a)
    (notNil : g ≠ []) (notNil' : h ≠ []) (different : key (g.getLast notNil) ≠ key (h.head notNil')) :
    ∀ a ∈ g, ∀ b ∈ h, key b < key a := by
  intro a memA b memB
  refine lt_of_le_of_ne (bound a memA b memB) fun same => different ?_
  rw [levelG _ (List.getLast_mem notNil) a memA, ← same, levelH b memB _ (List.head_mem notNil')]

/-- In a descending list the keys of a group are above those of later groups. -/
theorem strict_groups {key : α → β} {l : List α} (descending : l.Pairwise fun a b => key b ≤ key a) :
    (groups key l).Pairwise fun g h => ∀ a ∈ g, ∀ b ∈ h, key b < key a := by
  have bounds : (groups key l).Pairwise fun g h => ∀ a ∈ g, ∀ b ∈ h, key b ≤ key a := by
    rw [← List.flatten_splitBy (fun a b => key a = key b) l, List.pairwise_flatten] at descending
    exact descending.2
  have borders := List.isChain_getLast_head_splitBy (fun a b => key a = key b) l
  have level : ∀ g ∈ groups key l, ∀ a ∈ g, ∀ b ∈ g, key a = key b :=
    fun g member => keys_of_group member
  change (groups key l).IsChain _ at borders
  generalize groups key l = all at bounds borders level ⊢
  -- Neighbours first: the border gives strictness there, and the bounds carry it to later groups.
  induction all with
  | nil => exact List.Pairwise.nil
  | cons g later ih =>
    obtain ⟨first, bounds⟩ := List.pairwise_cons.mp bounds
    obtain ⟨levelG, levels⟩ := List.forall_mem_cons.mp level
    refine List.pairwise_cons.mpr ⟨?_, ih bounds borders.tail levels⟩
    cases later with
    | nil => simp
    | cons next later =>
      obtain ⟨notNil, notNil', different⟩ := (List.isChain_cons_cons.mp borders).1
      have below := key_lt_of_border levelG (levels next List.mem_cons_self)
        (first next List.mem_cons_self) notNil notNil' (of_decide_eq_false different)
      refine List.forall_mem_cons.mpr ⟨below, fun h memH a memA b memB => ?_⟩
      have between := List.head_mem notNil'
      exact ((List.pairwise_cons.mp bounds).1 h memH _ between b memB).trans_lt
        (below a memA _ between)

theorem mergeSort_of_descending {key : α → β} {le : α → α → Bool} (byKey : ByKey key le) {l : List α}
    (descending : l.Pairwise fun a b => key b ≤ key a) :
    l.mergeSort le = (groups key l).reverse.flatten := by
  have strict := strict_groups descending
  refine (eq_mergeSort byKey ?_ fun k => ?_).symm
  · rw [List.pairwise_flatten, List.pairwise_reverse]
    constructor
    · intro g member
      have level := keys_of_group (List.mem_reverse.mp member)
      exact List.pairwise_of_forall_mem_list fun a memA b memB => (level a memA b memB).le
    · exact strict.imp fun below a memA b memB => (below b memB a memA).le
  · have single : ((groups key l).map (withKey key k)).Pairwise fun g h => g = [] ∨ h = [] := by
      refine List.pairwise_map.mpr (strict.imp ?_)
      intro g h below
      by_contra both
      obtain ⟨a, memA⟩ := List.exists_mem_of_ne_nil _ (not_or.mp both).1
      obtain ⟨b, memB⟩ := List.exists_mem_of_ne_nil _ (not_or.mp both).2
      obtain ⟨memA, keyA⟩ := List.mem_filter.mp memA
      obtain ⟨memB, keyB⟩ := List.mem_filter.mp memB
      have same : key b = key a := by simp_all
      exact (below a memA b memB).ne same
    have turned := flatten_reverse_of_single single
    change ((groups key l).map (List.filter _)).reverse.flatten =
      ((groups key l).map (List.filter _)).flatten at turned
    rw [withKey, List.filter_flatten, List.map_reverse, turned, ← List.filter_flatten, groups,
      List.flatten_splitBy]
    rfl

theorem mergeSort_of_strictlyDescending {key : α → β} {le : α → α → Bool} (byKey : ByKey key le)
    {l : List α} (descending : l.Pairwise fun a b => key b < key a) :
    l.mergeSort le = l.reverse := by
  have distinct : (l.map key).Nodup := List.pairwise_map.mpr (descending.imp fun below => below.ne')
  have ascending : l.reverse.Pairwise fun a b => key a ≤ key b :=
    List.pairwise_reverse.mpr (descending.imp fun below => below.le)
  have sorted : l.reverse.mergeSort le = l.reverse :=
    List.mergeSort_of_pairwise (ascending.imp fun {a b} => (byKey a b).mpr)
  rw [← sorted, mergeSort_eq_of_perm byKey distinct (List.reverse_perm l)]

end TestHistory.Sorting
