import Mathlib.Order.Bounds.Basic
import TestHistory.Proofs.Doubles
import TestHistory.Proofs.RowFigures

/-!
# The shortest and the longest runtime of a test

Runtimes are compared as exact numbers. The shortest one of a row is right for all finite runtimes.
The longest one is found among the runtimes and zero, so it is right unless all of them lie below
zero (`pivot_runtimes`).
-/

namespace TestHistory

open Binary64 (value? value?_le_iff)

/-- The runtimes of the present cells. -/
def Row.exactRuntimes (row : Row) : Set ℚ :=
  {q | ∃ x ∈ row.runtimes, value? x = some q}

/-! ### Choosing the better of two -/

/-- One of the two is chosen, and its key is not the larger one. -/
def Picks {α : Type} (pick : α → α → α) (admitted : α → Prop) (key : α → Int) : Prop :=
  ∀ a b, admitted a → admitted b →
    (pick a b = a ∨ pick a b = b) ∧ key (pick a b) ≤ key a ∧ key (pick a b) ≤ key b

theorem Picks.foldl {α : Type} {pick : α → α → α} {admitted : α → Prop} {key : α → Int}
    (picks : Picks pick admitted key) {xs : List α} {start : α} (first : admitted start)
    (others : ∀ x ∈ xs, admitted x) :
    xs.foldl pick start ∈ start :: xs ∧ ∀ x ∈ start :: xs, key (xs.foldl pick start) ≤ key x := by
  induction xs generalizing start with
  | nil => simp
  | cons x xs ih =>
    have second : admitted x := others x List.mem_cons_self
    obtain ⟨chosen, leStart, leSecond⟩ := picks start x first second
    have next : admitted (pick start x) := by
      rcases chosen with same | same
      · rwa [same]
      · rwa [same]
    obtain ⟨member, least⟩ := ih next fun y later => others y (List.mem_cons_of_mem x later)
    have leNext := least _ List.mem_cons_self
    rw [List.foldl_cons]
    constructor
    · rcases List.mem_cons.mp member with same | later
      · rw [same]
        rcases chosen with same | same
        · rw [same]; exact List.mem_cons_self
        · rw [same]; exact .tail _ List.mem_cons_self
      · exact .tail _ (.tail _ later)
    · intro y listed
      rcases List.mem_cons.mp listed with rfl | listed
      · exact leNext.trans leStart
      rcases List.mem_cons.mp listed with rfl | later
      · exact leNext.trans leSecond
      · exact least y (.tail _ later)

namespace Binary64

theorem picks_least : Picks least (fun x => x.isNaN = false) position := by
  intro a b numberA numberB
  rw [least, numberA, numberB]
  by_cases less : position b < position a
  · simp [less, less.le]
  · simp [less, Int.not_lt.mp less]

theorem picks_greatest : Picks greatest (fun x => x.isNaN = false) fun x => -position x := by
  intro a b numberA numberB
  rw [greatest, numberA, numberB]
  by_cases less : position a < position b
  · simp [less, less.le]
  · simp [less, Int.not_lt.mp less]

theorem value?_zero : value? 0.0 = some 0 := by
  have zero : magnitude 0.0 = .finite 0 (-1074) := by decide +kernel
  rw [value?, zero]
  simp

theorem position_lt_infinity {x : Float} (finite : x.isFinite = true) :
    position x < position Tally.infinity := by
  have infinity : position Tally.infinity = 2047 * hiddenBit := by decide +kernel
  have exponent := isFinite_iff.mp finite
  have below : pattern x < 2048 * hiddenBit := Nat.mod_lt _ (by decide)
  rw [hiddenBit_eq] at infinity exponent below
  rw [infinity]
  unfold position
  split <;> omega

end Binary64

/-! ### Rows -/

namespace Row

variable {row : Row}

theorem exists_runtime (present : 1 ≤ row.totalRuns) : ∃ x, x ∈ row.runtimes := by
  apply List.exists_mem_of_length_pos
  have length : row.runtimes.length = row.totalRuns := by simp [runtimes, totalRuns_eq, outcomes]
  omega

theorem minRuntime_eq (present : 1 ≤ row.totalRuns) :
    row.minRuntime = row.runtimes.foldl Binary64.least Tally.infinity := by
  rw [minRuntime, if_neg (by omega), tally_eq]

theorem maxRuntime_eq (row : Row) : row.maxRuntime = row.runtimes.foldl Binary64.greatest 0.0 := by
  rw [maxRuntime, tally_eq]

theorem value_minRuntime (finite : ∀ x ∈ row.runtimes, x.isFinite = true)
    (present : 1 ≤ row.totalRuns) :
    ∃ least, value? row.minRuntime = some least ∧ IsLeast row.exactRuntimes least := by
  have infinity : Tally.infinity.isNaN = false := by decide +kernel
  obtain ⟨member, least⟩ := Binary64.picks_least.foldl infinity
    fun x listed => Binary64.isNaN_of_isFinite (finite x listed)
  rw [← minRuntime_eq present] at member least
  -- Some runtime is there, and it lies below the infinity that the fold begins with.
  obtain ⟨x, listed⟩ := exists_runtime present
  have below := Binary64.position_lt_infinity (finite x listed)
  have le := least x (.tail _ listed)
  rcases List.mem_cons.mp member with same | member
  · rw [same] at le
    omega
  · have value := Binary64.value?_of_isFinite (finite _ member)
    refine ⟨_, value, ⟨_, member, value⟩, ?_⟩
    rintro r ⟨y, listed, valueY⟩
    exact (value?_le_iff value valueY).mpr (least y (.tail _ listed))

theorem value_maxRuntime (finite : ∀ x ∈ row.runtimes, x.isFinite = true) :
    ∃ greatest, value? row.maxRuntime = some greatest ∧
      IsGreatest (insert 0 row.exactRuntimes) greatest := by
  have zero : (0.0 : Float).isNaN = false := by decide +kernel
  obtain ⟨member, greatest⟩ := Binary64.picks_greatest.foldl zero
    fun x listed => Binary64.isNaN_of_isFinite (finite x listed)
  rw [← maxRuntime_eq] at member greatest
  have upper {q : ℚ} (value : value? row.maxRuntime = some q) :
      q ∈ upperBounds (insert 0 row.exactRuntimes) := by
    rintro r (rfl | ⟨x, listed, valueX⟩)
    · have le := greatest _ List.mem_cons_self
      exact (value?_le_iff Binary64.value?_zero value).mpr (by omega)
    · have le := greatest x (.tail _ listed)
      exact (value?_le_iff valueX value).mpr (by omega)
  rcases List.mem_cons.mp member with same | member
  · have value : value? row.maxRuntime = some 0 := same ▸ Binary64.value?_zero
    exact ⟨0, value, Set.mem_insert .., upper value⟩
  · have value := Binary64.value?_of_isFinite (finite _ member)
    exact ⟨_, value, Set.mem_insert_of_mem _ ⟨_, member, value⟩, upper value⟩

end Row

theorem isGreatest_iff_of_insert {s : Set ℚ} {q : ℚ} (greatest : IsGreatest (insert 0 s) q) :
    IsGreatest s q ↔ ∃ r ∈ s, 0 ≤ r := by
  constructor
  · intro inner
    exact ⟨q, inner.1, greatest.2 (Set.mem_insert ..)⟩
  · rintro ⟨r, member, positive⟩
    have bounds : q ∈ upperBounds s := fun p listed => greatest.2 (Set.mem_insert_of_mem 0 listed)
    rcases greatest.1 with rfl | listed
    · have zero := le_antisymm (bounds member) positive
      exact ⟨zero ▸ member, bounds⟩
    · exact ⟨listed, bounds⟩

theorem Pivot.exists_test_of_record {runs : List Run} {name : String} {t : TestRecord}
    (member : t ∈ (row runs name).records) : ∃ run ∈ runs, t ∈ run.tests := by
  rw [Row.records, row_cells, List.filterMap_map] at member
  obtain ⟨run, listed, found⟩ := List.mem_filterMap.mp member
  obtain ⟨earlier, later, split, -⟩ := lastRecord_eq_some_iff.mp found
  exact ⟨run, listed, split ▸ List.mem_append_cons_self⟩

/-- The shortest runtime is one of the row's; the longest is, unless all lie below zero. -/
theorem pivot_runtimes {runs : List Run}
    (finite : ∀ run ∈ runs, ∀ t ∈ run.tests, t.runtime.isFinite = true) {row : Row}
    (member : row ∈ pivot runs) :
    (∃ least, value? row.minRuntime = some least ∧ IsLeast row.exactRuntimes least) ∧
      ∃ greatest, value? row.maxRuntime = some greatest ∧
        IsGreatest (insert 0 row.exactRuntimes) greatest ∧
        (IsGreatest row.exactRuntimes greatest ↔ ∃ r ∈ row.exactRuntimes, 0 ≤ r) := by
  have present := totalRuns_pos member
  obtain ⟨name, -, rfl⟩ := mem_pivot.mp member
  have finite : ∀ x ∈ (Pivot.row runs name).runtimes, x.isFinite = true := by
    intro x listed
    obtain ⟨t, recorded, rfl⟩ := List.mem_map.mp listed
    obtain ⟨run, memRun, memTest⟩ := Pivot.exists_test_of_record recorded
    exact finite run memRun t memTest
  obtain ⟨greatest, value, isGreatest⟩ := Row.value_maxRuntime finite
  exact ⟨Row.value_minRuntime finite present, greatest, value, isGreatest,
    isGreatest_iff_of_insert isGreatest⟩

/-! ### A clock that was set back -/

namespace Rewound

def test (runtime : Float) : TestRecord :=
  { TestRecord.bare "t" .passed with runtime }

def early : Run := .bare "1" [test (-1.5)]
def later : Run := .bare "2" [test 0.25]

theorem row_mem {runs : List Run} (member : early ∈ runs) : Pivot.row runs "t" ∈ pivot runs :=
  mem_pivot.mpr ⟨"t", Pivot.mem_names.mpr ⟨early, member, _, List.mem_cons_self, rfl⟩, rfl⟩

theorem finite : ∀ run ∈ [later, early], ∀ t ∈ run.tests, t.runtime.isFinite = true := by
  decide +kernel

end Rewound

theorem pivot_runtimes_rewound :
    (∀ run ∈ [Rewound.later, Rewound.early], ∀ t ∈ run.tests, t.runtime.isFinite = true) ∧
      Pivot.row [Rewound.later, Rewound.early] "t" ∈ pivot [Rewound.later, Rewound.early] ∧
      (∃ least, value? (Pivot.row [Rewound.later, Rewound.early] "t").minRuntime = some least ∧
        IsLeast (Pivot.row [Rewound.later, Rewound.early] "t").exactRuntimes least) ∧
      ∃ greatest, value? (Pivot.row [Rewound.later, Rewound.early] "t").maxRuntime = some greatest ∧
        IsGreatest (Pivot.row [Rewound.later, Rewound.early] "t").exactRuntimes greatest := by
  have member := Rewound.row_mem
    (List.mem_cons_of_mem Rewound.later (List.mem_singleton_self Rewound.early))
  obtain ⟨least, greatest, value, -, recorded⟩ := pivot_runtimes Rewound.finite member
  have quarter := Binary64.value?_of_isFinite (x := 0.25) (by decide +kernel)
  have positive := (value?_le_iff Binary64.value?_zero quarter).mpr (by decide +kernel)
  exact ⟨Rewound.finite, member, least, greatest, value,
    recorded.mpr ⟨_, ⟨0.25, .head _, quarter⟩, positive⟩⟩

/-- The only runtime lies below zero, and the longest one is zero. -/
theorem maxRuntime_not_recorded :
    ¬ ∀ (runs : List Run) (row : Row),
      (∀ run ∈ runs, ∀ t ∈ run.tests, t.runtime.isFinite = true) → row ∈ pivot runs →
        ∃ greatest, value? row.maxRuntime = some greatest ∧
          IsGreatest row.exactRuntimes greatest := by
  intro claimed
  have finite : ∀ run ∈ [Rewound.early], ∀ t ∈ run.tests, t.runtime.isFinite = true := by
    decide +kernel
  have member := Rewound.row_mem (List.mem_singleton_self Rewound.early)
  obtain ⟨q, value, ⟨x, recorded, same⟩, -⟩ := claimed _ _ finite member
  have alone : (Pivot.row [Rewound.early] "t").runtimes = [-1.5] := rfl
  rw [alone, List.mem_singleton] at recorded
  subst recorded
  have position : Binary64.position (-1.5) < Binary64.position
      (Pivot.row [Rewound.early] "t").maxRuntime := by
    decide +kernel
  have le := (value?_le_iff value same).mp le_rfl
  omega

end TestHistory
