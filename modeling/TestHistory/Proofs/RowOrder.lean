import Mathlib.Data.List.Sort
import Mathlib.Data.Prod.Lex
import TestHistory.Proofs.ByteOrder
import TestHistory.Proofs.Pivot
import TestHistory.Proofs.Sorting

/-!
# The order of rows

`Row.Precedes` orders rows by failures, pass rate and name. A sort compares no names; the rows of
`pivot` still strictly ascend (`pivot_precedes`), since they are sorted from the order of names.
-/

namespace TestHistory

namespace Row

/-- More failures, then the lower pass rate, then the name that comes first in bytes. -/
def Precedes (a b : Row) : Prop :=
  b.failCount < a.failCount ∨ a.failCount = b.failCount ∧
    (Binary64.rank a.passRate < Binary64.rank b.passRate ∨
      Binary64.rank a.passRate = Binary64.rank b.passRate ∧
        Text.bytes a.testName < Text.bytes b.testName)

/-- What rows are sorted by. -/
def key (r : Row) : Natᵒᵈ ×ₗ Int :=
  toLex (OrderDual.toDual r.failCount, Binary64.rank r.passRate)

theorem byKey_before : Sorting.ByKey key before := by
  intro a b
  rw [before, Ordering.isLE_then_iff_or, compare_lt_iff_lt, compare_eq_iff_eq,
    Std.LawfulBCmp.isLE_iff_le, key, key, Prod.Lex.toLex_le_toLex, eq_comm (a := b.failCount)]
  rfl

/-- The key and the name, of which no two rows of a pivot have the same. -/
def place (r : Row) : (Natᵒᵈ ×ₗ Int) ×ₗ String :=
  toLex (r.key, r.testName)

theorem key_lt_key {a b : Row} :
    a.key < b.key ↔ b.failCount < a.failCount ∨
      a.failCount = b.failCount ∧ Binary64.rank a.passRate < Binary64.rank b.passRate :=
  Prod.Lex.toLex_lt_toLex

theorem key_inj {a b : Row} :
    a.key = b.key ↔
      a.failCount = b.failCount ∧ Binary64.rank a.passRate = Binary64.rank b.passRate := by
  simp [key]

theorem precedes_iff {a b : Row} : a.Precedes b ↔ a.place < b.place := by
  rw [place, place, Prod.Lex.toLex_lt_toLex, key_lt_key, key_inj, Precedes, Text.bytes_lt_iff]
  tauto

instance : Std.Irrefl Precedes :=
  ⟨fun row self => lt_irrefl row.place (precedes_iff.mp self)⟩

instance : IsTrans Row Precedes :=
  ⟨fun _ _ _ first second =>
    precedes_iff.mpr ((precedes_iff.mp first).trans (precedes_iff.mp second))⟩

instance : Std.Antisymm Precedes :=
  ⟨fun _ _ first second =>
    absurd (precedes_iff.mp first) (lt_asymm (precedes_iff.mp second))⟩

end Row

/-! ### Visiting the tests of each run -/

/-- An order in which the tests of a run may be visited: each name once. -/
structure Run.Visits (run : Run) (order : List String) : Prop where
  nodup : order.Nodup
  names : ∀ name, name ∈ order ↔ run.Records name

namespace Pivot

/-- The rows when names are collected from the runs in the given orders. -/
def rowsVisiting (runs : List Run) (orders : List (List String)) : List Row :=
  let visited := Keyed.ofList (orders.flatten.map fun name => (name, ()))
  Row.sort ((visited.map Prod.fst).map (row runs))

theorem mem_flatten_of_visits {runs : List Run} {orders : List (List String)}
    (visits : List.Forall₂ Run.Visits runs orders) {name : String} :
    name ∈ orders.flatten ↔ ∃ run ∈ runs, run.Records name := by
  induction visits with
  | nil => simp
  | cons visit _ ih =>
    rw [List.flatten_cons, List.mem_append, visit.names, ih]
    simp

theorem rowsVisiting_eq {runs : List Run} {orders : List (List String)}
    (visits : List.Forall₂ Run.Visits runs orders) : rowsVisiting runs orders = pivot runs := by
  -- Two sorted lists of the same names are equal, whatever order the names came in.
  have same : (Keyed.ofList (orders.flatten.map fun name => (name, ()))).map Prod.fst =
      names runs := by
    refine (Keyed.sorted_ofList _).eq_of_mem_iff (sorted_names runs) fun name => ?_
    rw [Keyed.mem_keys_ofList, List.map_map, mem_names, ← mem_flatten_of_visits visits]
    simp
  rw [rowsVisiting, same]
  rfl

end Pivot

/-! ### Rows of the pivot -/

/-- The order of the rows of a pivot, and what it does not depend on. -/
structure OrdersRows (runs : List Run) (rows : List Row) : Prop where
  ascending : rows.Pairwise Row.Precedes
  unique : ∀ others : List Row, (∀ row, row ∈ others ↔ row ∈ rows) →
    others.Pairwise Row.Precedes → others = rows
  visiting : ∀ orders, List.Forall₂ Run.Visits runs orders → Pivot.rowsVisiting runs orders = rows
  resorted : Row.sort rows = rows

theorem pivot_precedes (runs : List Run) : (pivot runs).Pairwise Row.Precedes := by
  -- Rows enter the sort in the order of names, and rows of one key keep it.
  have increasing : ((Pivot.names runs).map (Pivot.row runs)).Pairwise
      fun a b => a.testName < b.testName := by
    rw [List.pairwise_map]
    simpa only [Pivot.row_testName] using Pivot.sorted_names runs
  refine (Sorting.pairwise_mergeSort Row.byKey_before increasing).imp ?_
  intro a b before
  rwa [Row.precedes_iff, Row.place, Row.place, Prod.Lex.toLex_lt_toLex]

theorem sort_pivot (runs : List Run) : Row.sort (pivot runs) = pivot runs :=
  List.mergeSort_of_pairwise
    (List.pairwise_mergeSort Row.byKey_before.trans Row.byKey_before.total _)

/-- The rows of a pivot stand in one order, which depends on nothing but the rows. -/
theorem pivot_ordersRows (runs : List Run) : OrdersRows runs (pivot runs) where
  ascending := pivot_precedes runs
  unique _ same ascending := ascending.eq_of_mem_iff (pivot_precedes runs) same
  visiting _ := Pivot.rowsVisiting_eq
  resorted := sort_pivot runs

end TestHistory
