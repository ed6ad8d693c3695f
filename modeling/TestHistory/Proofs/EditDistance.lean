import Mathlib.Data.List.Basic
import Mathlib.Order.Bounds.Defs
import Mathlib.Order.Lattice.Nat
import TestHistory.Text.Distance

/-!
# The distance between two texts

`Edits n a b` says that `n` edits are enough to get from `a` to `b`, and `distance` is the least
such number, by recursion on both texts (`edits_iff`). Edits can be turned around, read from the
other end and made one after the other, which gives the laws of the distance. The rows of
`editDistance` hold the distances from one start to all starts (`Rows.HoldsStarts`), so that it
computes this distance as well (`editDistance_eq`).
-/

namespace TestHistory.Text

/-- So many characters are inserted, deleted or replaced at most. -/
inductive Edits : Nat → List Char → List Char → Prop where
  | done (n : Nat) : Edits n [] []
  | keep {n : Nat} {a b : List Char} (x : Char) : Edits n a b → Edits n (x :: a) (x :: b)
  | replace {n : Nat} {a b : List Char} (x y : Char) :
    Edits n a b → Edits (n + 1) (x :: a) (y :: b)
  | delete {n : Nat} {a b : List Char} (x : Char) : Edits n a b → Edits (n + 1) (x :: a) b
  | insert {n : Nat} {a b : List Char} (y : Char) : Edits n a b → Edits (n + 1) a (y :: b)

/-- One deletion, one insertion, or one replacement unless the first characters agree. -/
def distance : List Char → List Char → Nat
  | [], b => b.length
  | x :: a, [] => (x :: a).length
  | x :: a, y :: b =>
    min (min (distance a (y :: b) + 1) (distance (x :: a) b + 1))
      (distance a b + if x = y then 0 else 1)
termination_by a b => a.length + b.length

/-! ### Edits -/

namespace Edits

variable {m n : Nat} {a b c d : List Char}

theorem weaken (edits : Edits n a b) : Edits (n + 1) a b := by
  induction edits with
  | done n => exact done (n + 1)
  | keep x _ ih => exact keep x ih
  | replace x y _ ih => exact replace x y ih
  | delete x _ ih => exact delete x ih
  | insert y _ ih => exact insert y ih

theorem mono (edits : Edits m a b) (le : m ≤ n) : Edits n a b := by
  induction le with
  | refl => exact edits
  | step _ ih => exact ih.weaken

theorem refl (a : List Char) : Edits 0 a a := by
  induction a with
  | nil => exact done 0
  | cons x a ih => exact keep x ih

theorem symm (edits : Edits n a b) : Edits n b a := by
  induction edits with
  | done n => exact done n
  | keep x _ ih => exact keep x ih
  | replace x y _ ih => exact replace y x ih
  | delete x _ ih => exact insert x ih
  | insert y _ ih => exact delete y ih

theorem eq_of_zero (edits : Edits 0 a b) : a = b := by
  generalize none : 0 = n at edits
  induction edits with
  | done => rfl
  | keep x _ ih => rw [ih none]
  | replace | delete | insert => omega

/-- Characters are inserted until the first one is kept, replaced or deleted. -/
theorem cons_induction {y : Char} {motive : (n : Nat) → (c : List Char) → Edits n (y :: b) c → Prop}
    (keep : ∀ n c (rest : Edits n b c), motive n (y :: c) (rest.keep y))
    (replace : ∀ n z c (rest : Edits n b c), motive (n + 1) (z :: c) (rest.replace y z))
    (delete : ∀ n c (rest : Edits n b c), motive (n + 1) c (rest.delete y))
    (insert : ∀ n z c (rest : Edits n (y :: b) c),
      motive n c rest → motive (n + 1) (z :: c) (rest.insert z))
    (edits : Edits n (y :: b) c) : motive n c edits := by
  have general {n : Nat} {start c : List Char} (edits : Edits n start c) (whole : start = y :: b) :
      motive n c (whole ▸ edits) := by
    induction edits with
    | done => cases whole
    | keep x rest =>
      cases whole
      exact keep _ _ rest
    | replace x z rest =>
      cases whole
      exact replace _ z _ rest
    | delete x rest =>
      cases whole
      exact delete _ _ rest
    | insert z rest ih =>
      subst whole
      exact insert _ z _ rest (ih rfl)
  exact general edits rfl

/-- First to `b`, then on to `c`. -/
theorem trans (first : Edits m a b) (second : Edits n b c) : Edits (m + n) a c := by
  -- The outer induction is on the first edits, the inner one passes what the second ones insert.
  induction first generalizing n c with
  | done m => exact second.mono (by omega)
  | delete x _ ih => exact (delete x (ih second)).mono (by omega)
  | keep x _ ih =>
    induction second using cons_induction with
    | keep n c rest => exact keep x (ih rest)
    | replace n z c rest => exact replace x z (ih rest)
    | delete n c rest => exact delete x (ih rest)
    | insert n z c _ rest => exact insert z rest
  | replace x y _ ih =>
    induction second using cons_induction with
    | keep n c rest => exact (replace x y (ih rest)).mono (by omega)
    | replace n z c rest => exact (replace x z (ih rest)).mono (by omega)
    | delete n c rest => exact (delete x (ih rest)).mono (by omega)
    | insert n z c _ rest => exact insert z rest
  | insert y _ ih =>
    induction second using cons_induction with
    | keep n c rest => exact (insert y (ih rest)).mono (by omega)
    | replace n z c rest => exact (insert z (ih rest)).mono (by omega)
    | delete n c rest => exact (ih rest).mono (by omega)
    | insert n z c _ rest => exact insert z rest

theorem append (front : Edits m a b) (back : Edits n c d) : Edits (m + n) (a ++ c) (b ++ d) := by
  induction front with
  | done m => exact back.mono (by omega)
  | keep x _ ih => exact keep x ih
  | replace x y _ ih => exact (replace x y ih).mono (by omega)
  | delete x _ ih => exact (delete x ih).mono (by omega)
  | insert y _ ih => exact (insert y ih).mono (by omega)

/-- Read from the other end. -/
theorem reverse (edits : Edits n a b) : Edits n a.reverse b.reverse := by
  induction edits with
  | done n => exact done n
  | keep x _ ih =>
    rw [List.reverse_cons, List.reverse_cons]
    exact ih.append (refl [x])
  | replace x y _ ih =>
    rw [List.reverse_cons, List.reverse_cons]
    exact ih.append (replace x y (done 0))
  | delete x _ ih =>
    rw [List.reverse_cons]
    simpa using ih.append (delete x (done 0))
  | insert y _ ih =>
    rw [List.reverse_cons]
    simpa using ih.append (insert y (done 0))

theorem insertAll (b : List Char) : Edits b.length [] b := by
  induction b with
  | nil => exact done 0
  | cons y b ih => exact insert y ih

theorem deleteAll (a : List Char) : Edits a.length a [] :=
  (insertAll a).symm

end Edits

/-! ### The recursion -/

@[simp] theorem distance_nil_left (b : List Char) : distance [] b = b.length := by
  rw [distance]

@[simp] theorem distance_nil_right (a : List Char) : distance a [] = a.length := by
  cases a <;> rw [distance]

theorem distance_cons_left_le (x : Char) (a b : List Char) :
    distance (x :: a) b ≤ distance a b + 1 := by
  cases b with
  | nil => simp
  | cons y b =>
    rw [distance]
    omega

theorem distance_cons_right_le (y : Char) (a b : List Char) :
    distance a (y :: b) ≤ distance a b + 1 := by
  cases a with
  | nil => simp
  | cons x a =>
    rw [distance]
    omega

theorem edits_distance (a b : List Char) : Edits (distance a b) a b := by
  fun_induction distance a b with
  | case1 b => exact Edits.insertAll b
  | case2 x a => exact Edits.deleteAll (x :: a)
  | case3 x a y b delete insert replace =>
    -- The least of the three numbers is one of them.
    obtain least | least := min_choice (min (distance a (y :: b) + 1) (distance (x :: a) b + 1))
      (distance a b + if x = y then 0 else 1)
    · rw [least]
      obtain least | least := min_choice (distance a (y :: b) + 1) (distance (x :: a) b + 1)
      · rw [least]
        exact delete.delete x
      · rw [least]
        exact insert.insert y
    · rw [least]
      split
      next same =>
        subst same
        exact replace.keep x
      next => exact replace.replace x y

theorem distance_le {n : Nat} {a b : List Char} (edits : Edits n a b) : distance a b ≤ n := by
  induction edits with
  | done => simp
  | keep x _ ih =>
    rw [distance, if_pos rfl]
    omega
  | @replace n a b x y _ ih =>
    rw [distance]
    have cost : (if x = y then 0 else 1) ≤ 1 := by split <;> omega
    omega
  | @delete n a b x _ ih =>
    have := distance_cons_left_le x a b
    omega
  | @insert n a b y _ ih =>
    have := distance_cons_right_le y a b
    omega

/-- The distance is the number of edits that are enough and no more than needed. -/
theorem edits_iff {n : Nat} {a b : List Char} : Edits n a b ↔ distance a b ≤ n :=
  ⟨distance_le, (edits_distance a b).mono⟩

theorem distance_comm (a b : List Char) : distance a b = distance b a :=
  le_antisymm (distance_le (edits_distance b a).symm) (distance_le (edits_distance a b).symm)

theorem distance_triangle (a b c : List Char) : distance a c ≤ distance a b + distance b c :=
  distance_le ((edits_distance a b).trans (edits_distance b c))

theorem distance_eq_zero {a b : List Char} : distance a b = 0 ↔ a = b := by
  rw [← Nat.le_zero, ← edits_iff]
  constructor
  · exact Edits.eq_of_zero
  · rintro rfl
    exact Edits.refl a

theorem distance_reverse (a b : List Char) : distance a.reverse b.reverse = distance a b := by
  apply le_antisymm
  · exact distance_le (edits_distance a b).reverse
  · have turned := (edits_distance a.reverse b.reverse).reverse
    rw [List.reverse_reverse, List.reverse_reverse] at turned
    exact distance_le turned

/-- The recursion from the other end, as the rows follow it. -/
theorem distance_concat (a b : List Char) (x y : Char) :
    distance (a ++ [x]) (b ++ [y]) =
      min (min (distance a (b ++ [y]) + 1) (distance (a ++ [x]) b + 1))
        (distance a b + if x = y then 0 else 1) := by
  rw [← distance_reverse a (b ++ [y]), ← distance_reverse (a ++ [x]) b, ← distance_reverse a b,
    ← distance_reverse, List.reverse_concat, List.reverse_concat, distance]

/-! ### Rows -/

/-- What holds at the start of a loop and is kept by each of its rounds holds at its end. -/
theorem foldl_invariant {α : Type} {n : Nat} {f : α → Fin n → α} (holds : Nat → α → Prop)
    {first : α} (start : holds 0 first)
    (step : ∀ (i : Fin n) a, holds i a → holds (i + 1) (f a i)) :
    holds n (Fin.foldl n f first) := by
  induction n with
  | zero => simpa using start
  | succ n ih =>
    have before := ih (f := fun a i => f a i.castSucc) fun i => step i.castSucc
    rw [Fin.foldl_succ_last]
    exact step (Fin.last n) _ before

namespace Rows

variable {n : Nat}

/-- The entries are the distances from `a` to all starts of `b`. -/
def HoldsStarts (a : List Char) (b : Vector Char n) (row : Vector Nat (n + 1)) : Prop :=
  ∀ k (inside : k < n + 1), row[k] = distance a (b.toList.take k)

/-- The row of `a` is full, and the one for a further character is filled up to `j`. -/
structure FilledTo (a : List Char) (x : Char) (b : Vector Char n) (j : Nat) (rows : Rows n) :
    Prop where
  previous : HoldsStarts a b rows.previous
  current : ∀ k (inside : k < n + 1), k ≤ j →
    rows.current[k] = distance (a ++ [x]) (b.toList.take k)

theorem holdsStarts_start (b : Vector Char n) : HoldsStarts [] b (start n).previous := by
  intro k inside
  have short : k ≤ n := by omega
  simp [start, short]

theorem FilledTo.fillEntry {a : List Char} {x : Char} {b : Vector Char n} {rows : Rows n}
    (j : Fin n) (filled : FilledTo a x b j rows) :
    FilledTo a x b (j + 1) (rows.fillEntry x (b.get j) j) where
  previous := filled.previous
  current := by
    intro k inside reached
    have longer : b.toList.take (j + 1) = b.toList.take j ++ [b.get j] := by
      rw [List.take_succ_eq_append_getElem (by simp), Vector.getElem_toList]
      rfl
    by_cases last : k = j + 1
    · subst last
      have deleted := filled.previous (j + 1) inside
      have inserted := filled.current j (by omega) le_rfl
      have replaced := filled.previous j (by omega)
      rw [longer] at deleted ⊢
      rw [distance_concat, ← deleted, ← inserted, ← replaced]
      simp [Rows.fillEntry]
    · have before := filled.current k inside (by omega)
      rw [← before]
      simp only [Rows.fillEntry]
      exact Vector.getElem_set_ne _ _ (by simp; omega)

theorem FilledTo.fill {a : List Char} {x : Char} {b : Vector Char n} {rows : Rows n}
    (filled : FilledTo a x b 0 rows) : FilledTo a x b n (rows.fill x b) :=
  foldl_invariant (FilledTo a x b) filled fun j _ => FilledTo.fillEntry j

theorem HoldsStarts.extend {a : List Char} {b : Vector Char n} {rows : Rows n}
    (holds : HoldsStarts a b rows.previous) (x : Char) :
    HoldsStarts (a ++ [x]) b (rows.extend x a.length b).previous := by
  -- Whatever an older row has left, only the first entry is read before it is filled.
  have first : FilledTo a x b 0 { rows with current := rows.current.set 0 (a.length + 1) } := by
    refine ⟨holds, ?_⟩
    intro k inside reached
    obtain rfl : k = 0 := by omega
    simp
  intro k inside
  exact first.fill.current k inside (by omega)

/-- After all characters of `a` a row holds the distances from `a`. -/
theorem holdsStarts_foldl (a : Array Char) (b : Vector Char n) :
    HoldsStarts a.toList b
      (Fin.foldl a.size (fun rows i => rows.extend a[i] i b) (start n)).previous := by
  have step (i : Fin a.size) (rows : Rows n)
      (holds : HoldsStarts (a.toList.take i) b rows.previous) :
      HoldsStarts (a.toList.take (i + 1)) b (rows.extend a[i] i b).previous := by
    have longer : a.toList.take (i + 1) = a.toList.take i ++ [a[i]] := by
      rw [List.take_succ_eq_append_getElem (by simp), Array.getElem_toList]
      rfl
    have size : (a.toList.take i).length = i := by simp
    have extended := holds.extend a[i]
    rwa [size, ← longer] at extended
  have all := foldl_invariant
    (fun i (rows : Rows n) => HoldsStarts (a.toList.take i) b rows.previous)
    (holdsStarts_start b) step
  rwa [List.take_of_length_le (by simp)] at all

end Rows

theorem editDistance_eq (a b : String) : editDistance a b = distance a.toList b.toList := by
  unfold editDistance
  dsimp only
  split
  next none =>
    have empty : a.toList = [] := by simpa using none
    simp [empty]
  next =>
  split
  next none =>
    have empty : b.toList = [] := by simpa using none
    simp [empty]
  next =>
    have last := Rows.holdsStarts_foldl a.toList.toArray b.toList.toArray.toVector
      b.toList.toArray.size (by omega)
    rw [Vector.back_eq_getElem]
    simpa using last

/-- The least number of edits, by the recursion on both texts, with the laws of a distance. -/
theorem editDistance_laws (a b c : String) :
    editDistance a b = distance a.toList b.toList ∧
      IsLeast {n | Edits n a.toList b.toList} (editDistance a b) ∧
      (editDistance a b = 0 ↔ a = b) ∧
      editDistance a b = editDistance b a ∧
      editDistance a c ≤ editDistance a b + editDistance b c := by
  rw [editDistance_eq, editDistance_eq, editDistance_eq, editDistance_eq]
  refine ⟨rfl, ⟨edits_distance _ _, fun n => distance_le⟩, ?_, distance_comm _ _,
    distance_triangle _ _ _⟩
  rw [distance_eq_zero, String.toList_inj]

example : editDistance "kitten" "sitting" = 3 := by decide

end TestHistory.Text
