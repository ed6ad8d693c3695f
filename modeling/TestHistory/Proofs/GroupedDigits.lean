import TestHistory.Decimal.Grouped
import TestHistory.Proofs.Numerals

/-!
# Digits in groups of three

`InThrees` gives the lengths of the groups. `groupDigits_flatten` sets exactly the commas between
such groups, and `exists_groups` finds them in any digits. `isGrouped_iff` has from both that the
grouped text of a number shows its digits in these groups, and that no other text does.
-/

namespace TestHistory.Decimal

/-- One to three characters, then groups of exactly three. -/
structure InThrees (first : List Char) (rest : List (List Char)) : Prop where
  nonempty : first ≠ []
  short : first.length ≤ 3
  whole : ∀ group ∈ rest, group.length = 3

/-- Without its commas the text is the decimal text of the number; cut at the commas it falls into
groups of digits. -/
structure IsGrouped (n : Nat) (text : String) : Prop where
  decimal : text.toList.filter (· ≠ ',') = (toString n).toList
  groups : ∃ first rest, text.toList.splitOn ',' = first :: rest ∧ InThrees first rest ∧
    ∀ group ∈ first :: rest, Digits group

/-! ### Where the commas stand -/

variable {c : Char} {digits front back first : List Char} {rest : List (List Char)}

theorem groupDigits_cons_whole (more : back ≠ []) (whole : back.length % 3 = 0) :
    groupDigits (c :: back) = c :: ',' :: groupDigits back := by
  match back with
  | d :: rest => exact if_pos whole

theorem groupDigits_cons_part (part : back.length % 3 ≠ 0) :
    groupDigits (c :: back) = c :: groupDigits back := by
  match back with
  | d :: rest => exact if_neg part

theorem groupDigits_short (short : digits.length ≤ 3) : groupDigits digits = digits := by
  induction digits with
  | nil => rfl
  | cons c back ih =>
    rw [List.length_cons] at short
    by_cases last : back = []
    · rw [last, groupDigits]
    · have some := List.length_pos_iff.mpr last
      rw [groupDigits_cons_part (by omega), ih (by omega)]

/-- A comma stands behind a first group. Commas go by what is still to come, so the groups behind it
are written as they are alone. -/
theorem groupDigits_append (nonempty : front ≠ []) (short : front.length ≤ 3) (more : back ≠ [])
    (whole : back.length % 3 = 0) :
    groupDigits (front ++ back) = front ++ ',' :: groupDigits back := by
  induction front with
  | nil => exact absurd rfl nonempty
  | cons c front ih =>
    rw [List.length_cons] at short
    by_cases last : front = []
    · rw [last, List.singleton_append, groupDigits_cons_whole more whole, List.singleton_append]
    · have some := List.length_pos_iff.mpr last
      have part : (front ++ back).length % 3 ≠ 0 := by
        rw [List.length_append]
        omega
      rw [List.cons_append, groupDigits_cons_part part, ih last (by omega), List.cons_append]

/-! ### The groups -/

theorem InThrees.length_rest (threes : InThrees first rest) :
    rest.flatten.length = rest.length * 3 := by
  rw [List.length_flatten, List.map_eq_replicate_iff.mpr threes.whole, List.sum_replicate_nat]

theorem InThrees.tail {group : List Char} (threes : InThrees first (group :: rest)) :
    InThrees group rest := by
  obtain ⟨length, whole⟩ := List.forall_mem_cons.mp threes.whole
  exact ⟨List.ne_nil_of_length_eq_add_one length, length.le, whole⟩

theorem groupDigits_flatten (threes : InThrees first rest) :
    groupDigits (first ++ rest.flatten) = [','].intercalate (first :: rest) := by
  induction rest generalizing first with
  | nil =>
    rw [List.flatten_nil, List.append_nil, groupDigits_short threes.short,
      List.intercalate_singleton]
  | cons group rest ih =>
    have length := threes.length_rest
    have more : (group :: rest).flatten ≠ [] := by
      apply List.ne_nil_of_length_pos
      rw [length, List.length_cons]
      omega
    rw [groupDigits_append threes.nonempty threes.short more (by omega), List.flatten_cons,
      ih threes.tail, List.intercalate_cons_cons, List.append_assoc, List.singleton_append]

/-- One more digit in front opens a group of its own if the first group is full. -/
theorem exists_groups (nonempty : digits ≠ []) :
    ∃ first rest, InThrees first rest ∧ first ++ rest.flatten = digits := by
  induction digits with
  | nil => exact absurd rfl nonempty
  | cons c digits ih =>
    by_cases last : digits = []
    · exact ⟨[c], [], ⟨List.cons_ne_nil c [], by simp, by simp⟩, by simp [last]⟩
    · obtain ⟨first, rest, ⟨_, short, whole⟩, joined⟩ := ih last
      by_cases full : first.length = 3
      · have threes : InThrees [c] (first :: rest) :=
          ⟨List.cons_ne_nil c [], by simp, List.forall_mem_cons.mpr ⟨full, whole⟩⟩
        exact ⟨_, _, threes, by simp [joined]⟩
      · have threes : InThrees (c :: first) rest :=
          ⟨List.cons_ne_nil c first, Nat.lt_of_le_of_ne short full, whole⟩
        exact ⟨_, _, threes, by simp [joined]⟩

/-! ### Texts with commas -/

theorem Digits.comma_notMem (all : Digits digits) : ',' ∉ digits :=
  fun member => absurd (all ',' member) (by decide)

theorem Digits.of_flatten {groups : List (List Char)} (all : Digits groups.flatten) :
    ∀ group ∈ groups, Digits group :=
  fun group member c within => all c (List.mem_flatten.mpr ⟨group, member, within⟩)

theorem filter_intercalate {groups : List (List Char)} (all : ∀ group ∈ groups, Digits group) :
    ([','].intercalate groups).filter (· ≠ ',') = groups.flatten := by
  induction groups with
  | nil => rfl
  | cons first rest ih =>
    obtain ⟨digits, others⟩ := List.forall_mem_cons.mp all
    have kept : first.filter (· ≠ ',') = first :=
      List.filter_eq_self.mpr fun c member =>
        decide_eq_true (ne_of_mem_of_not_mem member digits.comma_notMem)
    match rest with
    | [] => rw [List.intercalate_singleton, kept, List.flatten_singleton]
    | group :: more =>
      rw [List.intercalate_cons_cons, List.append_assoc, List.filter_append, kept,
        List.flatten_cons, ← ih others]
      rfl

theorem isGrouped_groupThousands (n : Nat) : IsGrouped n (groupThousands n) := by
  obtain ⟨first, rest, threes, joined⟩ := exists_groups (Nat.toDigits_ne_nil (n := n) (b := 10))
  have digits : ∀ group ∈ first :: rest, Digits group :=
    Digits.of_flatten (List.flatten_cons ▸ joined ▸ digits_toDigits n)
  have shown : (groupThousands n).toList = [','].intercalate (first :: rest) := by
    rw [groupThousands, String.toList_ofList, ← joined, groupDigits_flatten threes]
  constructor
  case decimal =>
    rw [shown, filter_intercalate digits, List.flatten_cons, joined, Nat.toString_eq_repr,
      Nat.toList_repr]
  case groups =>
    refine ⟨first, rest, ?_, threes, digits⟩
    rw [shown, List.splitOn_intercalate ',' (fun group member => (digits group member).comma_notMem)
      (List.cons_ne_nil first rest)]

/-- The two readings of a text leave no choice where its commas stand. -/
theorem IsGrouped.eq_groupThousands {n : Nat} {text : String} (grouped : IsGrouped n text) :
    text = groupThousands n := by
  obtain ⟨first, rest, split, threes, digits⟩ := grouped.groups
  have joined : [','].intercalate (first :: rest) = text.toList := by
    rw [← split, List.intercalate_splitOn]
  have decimal : first ++ rest.flatten = Nat.toDigits 10 n := by
    rw [← List.flatten_cons, ← filter_intercalate digits, joined, grouped.decimal,
      Nat.toString_eq_repr, Nat.toList_repr]
  rw [groupThousands, ← decimal, groupDigits_flatten threes, joined, String.ofList_toList]

/-- The grouped text of a number has both readings, and it is the only text that has them. -/
theorem isGrouped_iff (n : Nat) (text : String) : IsGrouped n text ↔ text = groupThousands n := by
  constructor
  · exact IsGrouped.eq_groupThousands
  · rintro rfl
    exact isGrouped_groupThousands n

example : groupThousands 1234567 = "1,234,567" := by decide +kernel

end TestHistory.Decimal
