import Mathlib.Data.Int.ConditionallyCompleteOrder
import Mathlib.Data.Prod.Lex
import Mathlib.Order.Lattice.Nat
import Mathlib.Order.WithBot
import TestHistory.Proofs.ByteOrder
import TestHistory.Proofs.Sorting
import TestHistory.Run.Basic

/-!
# The order of runs

`Run.NewerThan` says which of two runs is the newer one. Both sorts of runs go by one key: the
instant, then the text of the start (`newerThan_iff`, `byKey_newestFirst`, `byKey_oldestFirst`).
-/

namespace TestHistory

namespace Time.Instant

def Before (a b : Instant) : Prop :=
  a.seconds < b.seconds ∨ a.seconds = b.seconds ∧ a.nanos < b.nanos

/-- Instants on a line. -/
def key (t : Instant) : Int ×ₗ Nat :=
  toLex (t.seconds, t.nanos)

theorem key_lt_key {a b : Instant} : a.key < b.key ↔ a.Before b :=
  Prod.Lex.toLex_lt_toLex

theorem key_inj {a b : Instant} : a.key = b.key ↔ a = b := by
  obtain ⟨seconds, nanos⟩ := a
  obtain ⟨seconds', nanos'⟩ := b
  simp [key]

theorem compare_eq_lt {a b : Instant} : compare a b = .lt ↔ a.key < b.key := by
  rw [key_lt_key, compare, Ordering.then_eq_lt, compare_lt_iff_lt, compare_eq_iff_eq,
    compare_lt_iff_lt, Before]

theorem compare_eq_eq {a b : Instant} : compare a b = .eq ↔ a = b := by
  rw [compare, Ordering.then_eq_eq, compare_eq_iff_eq, compare_eq_iff_eq, ← key_inj]
  simp [key]

end Time.Instant

namespace Run

/-- The first run is newer: its start names a later instant, or the only one of the two; starts
that name one instant or none at all go by their bytes. -/
def NewerThan (a b : Run) : Prop :=
  match a.startedAt, b.startedAt with
  | some later, some earlier =>
    earlier.Before later ∨ later = earlier ∧ Text.bytes b.startTime < Text.bytes a.startTime
  | some _, none => True
  | none, some _ => False
  | none, none => Text.bytes b.startTime < Text.bytes a.startTime

/-- A start that names no instant is below all others. -/
def instantKey : Option Time.Instant → WithBot (Int ×ₗ Nat)
  | none => ⊥
  | some t => t.key

theorem instantKey_inj {a b : Option Time.Instant} : instantKey a = instantKey b ↔ a = b := by
  cases a <;> cases b <;> simp [instantKey, Time.Instant.key_inj]

theorem compareInstants_eq_lt {a b : Option Time.Instant} :
    compareInstants a b = .lt ↔ instantKey a < instantKey b := by
  cases a <;> cases b <;> simp [compareInstants, instantKey, Time.Instant.compare_eq_lt]

theorem compareInstants_eq_eq {a b : Option Time.Instant} : compareInstants a b = .eq ↔ a = b := by
  cases a <;> cases b <;> simp [compareInstants, Time.Instant.compare_eq_eq]

/-- What runs are sorted by. -/
def key (r : Run) : WithBot (Int ×ₗ Nat) ×ₗ String :=
  toLex (instantKey r.startedAt, r.startTime)

theorem key_inj {a b : Run} : a.key = b.key ↔ a.startTime = b.startTime := by
  constructor
  · intro same
    exact congrArg (fun k => (ofLex k).2) same
  · intro same
    rw [key, key, startedAt, startedAt, same]

theorem newerThan_iff {a b : Run} : a.NewerThan b ↔ b.key < a.key := by
  rw [key, key, Prod.Lex.toLex_lt_toLex, NewerThan, ← Text.bytes_lt_iff]
  dsimp only
  rw [instantKey_inj]
  cases a.startedAt <;> cases b.startedAt <;>
    simp [instantKey, Time.Instant.key_lt_key, eq_comm]

theorem compare_isLE {a b : Run} : (compare a b).isLE = true ↔ a.key ≤ b.key := by
  rw [compare, Ordering.isLE_then_iff_or, compareInstants_eq_lt, compareInstants_eq_eq,
    ← instantKey_inj, key, key, Prod.Lex.toLex_le_toLex, Std.LawfulBCmp.isLE_iff_le]

theorem byKey_oldestFirst : Sorting.ByKey key fun a b => (compare a b).isLE :=
  fun _ _ => compare_isLE

theorem byKey_newestFirst : Sorting.ByKey (OrderDual.toDual ∘ key) fun a b => (compare b a).isLE :=
  fun _ _ => compare_isLE

end Run

end TestHistory
