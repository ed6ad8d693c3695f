import TestHistory.Proofs.JsonText
import TestHistory.Proofs.Keyed

/-!
# Values without doubles

A value whose numbers are all integers of 64 bits is read back from its text as it is
(`tree_of_isWhole`). What a tree has been read as is read again as itself (`value?_ofValue`).
-/

namespace TestHistory

namespace Json

/-- An integer of 64 bits, with or without sign. -/
def Number.IsWhole : Number → Prop
  | .int n => -2 ^ 63 ≤ n ∧ n < 2 ^ 64
  | .float _ => False

namespace Value

mutual

/-- Every number in the value is an integer of 64 bits. -/
def IsWhole : Value → Prop
  | null | bool _ | string _ => True
  | number n => n.IsWhole
  | array items => AreWhole items
  | object fields => FieldsWhole fields

def AreWhole : List Value → Prop
  | [] => True
  | item :: items => item.IsWhole ∧ AreWhole items

def FieldsWhole : List (String × Value) → Prop
  | [] => True
  | (_, value) :: fields => value.IsWhole ∧ FieldsWhole fields

end

theorem areWhole_iff {items : List Value} : AreWhole items ↔ ∀ item ∈ items, item.IsWhole := by
  induction items with
  | nil => exact iff_of_true trivial (List.forall_mem_nil _)
  | cons item items ih => rw [AreWhole, ih, List.forall_mem_cons]

theorem fieldsWhole_iff {fields : List (String × Value)} :
    FieldsWhole fields ↔ ∀ field ∈ fields, field.2.IsWhole := by
  induction fields with
  | nil => exact iff_of_true trivial (List.forall_mem_nil _)
  | cons field fields ih => rw [FieldsWhole, ih, List.forall_mem_cons]

end Value

theorem isWhole_ofNat {n : Nat} (small : n < Decimal.bound64) : (ofNat n).IsWhole := by
  have bound : n < 2 ^ 64 := small
  exact ⟨by omega, by omega⟩

@[simp] theorem isWhole_ofStrings (texts : List String) : (ofStrings texts).IsWhole := by
  refine Value.areWhole_iff.mpr (List.forall_mem_map.mpr fun _ _ => ?_)
  rw [Value.IsWhole]
  trivial

theorem Number.tree_of_isWhole {n : Number} (whole : n.IsWhole) : n.tree = .number (some n) := by
  match n with
  | .int n =>
    have read := ofWord?_numeral (wellFormed_integerNumeral n)
    rw [number?_integerNumeral whole.1 whole.2] at read
    rw [Number.tree, Number.text, integerText_eq, read, Option.getD_some]

mutual

theorem Value.tree_of_isWhole (v : Value) (whole : v.IsWhole) : v.tree = Tree.ofValue v := by
  match v with
  | .null | .bool _ | .string _ => rfl
  | .number n => exact Number.tree_of_isWhole whole
  | .array items => exact congrArg Tree.array (itemTrees_of_areWhole items whole)
  | .object fields => exact congrArg Tree.object (fieldTrees_of_fieldsWhole fields whole)

theorem Value.itemTrees_of_areWhole (items : List Value) (whole : Value.AreWhole items) :
    Value.itemTrees items = Tree.ofItems items := by
  match items with
  | [] => rfl
  | item :: items =>
    rw [Value.itemTrees, Tree.ofItems, tree_of_isWhole item whole.1,
      itemTrees_of_areWhole items whole.2]

theorem Value.fieldTrees_of_fieldsWhole (fields : List (String × Value))
    (whole : Value.FieldsWhole fields) : Value.fieldTrees fields = Tree.ofFields fields := by
  match fields with
  | [] => rfl
  | (key, value) :: fields =>
    rw [Value.fieldTrees, Tree.ofFields, tree_of_isWhole value whole.1,
      fieldTrees_of_fieldsWhole fields whole.2]

end

/-! ### Reading again -/

namespace Tree

/-- The value is read as itself. -/
def Settled (depth : Nat) (v : Value) : Prop :=
  (ofValue v).value? depth = some v

theorem items?_ofItems {depth : Nat} {items : List Value} (settled : ∀ v ∈ items, Settled depth v) :
    items? depth (ofItems items) = some items := by
  induction items with
  | nil => rfl
  | cons item items ih =>
    obtain ⟨first, rest⟩ := List.forall_mem_cons.mp settled
    rw [ofItems, items?, first, ih rest]

theorem fields?_ofFields {depth : Nat} {fields : List (String × Value)}
    (settled : ∀ field ∈ fields, Settled depth field.2) :
    fields? depth (ofFields fields) = some fields := by
  induction fields with
  | nil => rfl
  | cons field fields ih =>
    obtain ⟨first, rest⟩ := List.forall_mem_cons.mp settled
    unfold Settled at first
    simp only [ofFields, fields?, first, ih rest]

mutual

theorem settled_of_value? (depth : Nat) (tree : Tree) {v : Value}
    (read : tree.value? depth = some v) : Settled depth v := by
  match tree, depth with
  | .null, _ | .bool _, _ => obtain rfl := Option.some.inj read; rfl
  | .number n, _ =>
    obtain ⟨m, -, rfl⟩ := Option.map_eq_some_iff.mp read
    rfl
  | .string s, _ =>
    obtain ⟨text, -, rfl⟩ := Option.map_eq_some_iff.mp read
    rfl
  | .array items, depth + 1 =>
    obtain ⟨values, inner, rfl⟩ := Option.map_eq_some_iff.mp read
    have again := items?_ofItems (settled_of_items? depth items inner)
    rw [Settled, ofValue, value?, again, Option.map_some]
  | .object fields, depth + 1 =>
    obtain ⟨values, inner, rfl⟩ := Option.map_eq_some_iff.mp read
    have settled := settled_of_fields? depth fields inner
    have again := fields?_ofFields fun field member => settled field (Keyed.mem_of_mem_ofList member)
    rw [Settled, ofValue, value?, again, Option.map_some, (Keyed.sorted_ofList values).ofList_eq]

theorem settled_of_items? (depth : Nat) (items : List Tree) {values : List Value}
    (read : items? depth items = some values) : ∀ v ∈ values, Settled depth v := by
  match items with
  | [] =>
    obtain rfl := Option.some.inj read
    exact List.forall_mem_nil _
  | item :: items =>
    rw [items?] at read
    split at read
    · rename_i value values first rest
      obtain rfl := Option.some.inj read
      exact List.forall_mem_cons.mpr
        ⟨settled_of_value? depth item first, settled_of_items? depth items rest⟩
    · exact nomatch read

theorem settled_of_fields? (depth : Nat) (fields : List (Option String × Tree))
    {values : List (String × Value)} (read : fields? depth fields = some values) :
    ∀ field ∈ values, Settled depth field.2 := by
  match fields with
  | [] =>
    obtain rfl := Option.some.inj read
    exact List.forall_mem_nil _
  | (key, tree) :: fields =>
    unfold fields? at read
    split at read
    · rename_i key value values first rest
      obtain rfl := Option.some.inj read
      exact List.forall_mem_cons.mpr
        ⟨settled_of_value? depth tree first, settled_of_fields? depth fields rest⟩
    · exact nomatch read

end

end Tree

end Json

end TestHistory
