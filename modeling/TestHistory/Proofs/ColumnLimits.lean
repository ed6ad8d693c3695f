import TestHistory.Proofs.TextLimits
import TestHistory.Terminal.Fit

/-!
# Texts cut to a number of columns

A text is measured as a whole, and cut by its characters measured alone. `columns_le_cost` compares
the two: only a control character and two of the variation selectors may add a column to a text
that they do not have alone. `fit_limits` says when a cut text fits.
-/

namespace TestHistory.Text

/-- No range of one list meets a range of the other. -/
def apart (left right : List (Nat × Nat)) : Bool :=
  left.all fun a => right.all fun b => Nat.blt a.2 b.1 || Nat.blt b.2 a.1

theorem inRanges_of_apart {left right : List (Nat × Nat)} (separate : apart left right = true)
    {c : Char} (inside : inRanges left c = true) : inRanges right c = false := by
  simp only [apart, List.all_eq_true, Bool.or_eq_true, Nat.blt_eq] at separate
  simp only [inRanges, List.any_eq_true, List.any_eq_false, Bool.and_eq_true,
    decide_eq_true_eq] at inside ⊢
  obtain ⟨a, memberA, aboveA, belowA⟩ := inside
  intro b memberB within
  have := separate a memberA b memberB
  omega

namespace Columns

/-! ### What a character may take in a text -/

/-- May the character take more columns in a text than alone? -/
def widens (c : Char) : Bool :=
  isControl c || c = '\uFE0F' || c = '\uFE01'

def cost (c : Char) : Nat :=
  charColumns c + if widens c then 1 else 0

theorem one_le_cost_of_visible {c : Char} (visible : isEmpty c = false) : 1 ≤ cost c := by
  rw [cost]
  by_cases control : isControl c = true
  · rw [widens, control]
    simp
  · rw [charColumns, if_neg control, ownWidth, visible, if_neg Bool.false_ne_true]
    split_ifs <;> omega

theorem one_le_cost_of_apart {ranges : List (Nat × Nat)}
    (separate : apart ranges emptyRanges = true) {c : Char} (inside : inRanges ranges c = true) :
    1 ≤ cost c :=
  one_le_cost_of_visible (inRanges_of_apart separate inside)

theorem one_le_cost_of_narrow {c : Char} (narrow : c.toNat ≤ 0xA0) : 1 ≤ cost c := by
  have inside : inRanges [(0, 0xA0)] c = true := by simp [inRanges, narrow]
  exact one_le_cost_of_apart (by decide +kernel) inside

/-! ### One character before the others -/

-- The columns that the next character may add beyond its cost must have been left before: one for
-- a quote or an emoji with a selector, two for the next flag in a joined sequence of flags.
def Following.allowance : Following → Int
  | .fullwidth => -1
  | .joinedRegions true => -2
  | _ => 0

def Context.allowance (context : Context) : Int :=
  context.following.allowance + if context.selector = .emoji then -1 else 0

theorem Following.allowance_le (following : Following) : following.allowance ≤ 0 := by
  unfold allowance
  split <;> decide

theorem Context.allowance_le (context : Context) : context.allowance ≤ 0 := by
  have nonpos := context.following.allowance_le
  unfold allowance
  split <;> omega

theorem allowance_start {c : Char} (other : c ≠ '\uFE0F') (narrow : c ≠ '\uFE01') :
    (start c).allowance = 0 := by
  rw [start, if_neg other, if_neg narrow]
  simp only [apply_ite Context.allowance]
  simp [Context.allowance, Following.allowance, Context.plain]

theorem start_le {c : Char} (beyond : 0xA0 < c.toNat) :
    (ownWidth c : Int) ≤ cost c + (start c).allowance := by
  by_cases selector : c = '\uFE0F'
  · subst selector
    decide +kernel
  by_cases fullwidth : c = '\uFE01'
  · subst fullwidth
    decide +kernel
  have control : isControl c = false := by
    simp [isControl]
    omega
  rw [allowance_start selector fullwidth, cost, charColumns, control, if_neg Bool.false_ne_true]
  omega

theorem ligature_le {following next : Following} {c : Char} {width : Int}
    (found : ligature following c = some (width, next)) :
    width + following.allowance ≤ cost c + next.allowance := by
  revert found
  fun_cases ligature following c <;> intro found
  -- Only a quote, the joiner of Tifinagh and a vowel of Kirat Rai take columns in a ligature.
  case case1 quote =>
    have visible : 1 ≤ cost c := one_le_cost_of_apart (by decide +kernel) quote
    cases found
    simp [Following.allowance]
    omega
  case case14 joiner =>
    have visible : 1 ≤ cost c := joiner ▸ by decide +kernel
    cases found
    simp [Following.allowance]
    omega
  case case25 vowel =>
    have inside : inRanges [(0x16D68, 0x16D68)] c = true := by simp [inRanges, vowel]
    have visible : 1 ≤ cost c := one_le_cost_of_apart (by decide +kernel) inside
    cases found
    simp [Following.allowance]
    omega
  all_goals
    cases found <;> simp [Following.allowance]

theorem one_le_cost_of_region {c : Char} (region : isRegion c = true) : 1 ≤ cost c :=
  one_le_cost_of_apart (by decide +kernel) region

theorem allowance_of_tagStep {letters digits : Nat} {c : Char} {next : Following}
    (taken : tagStep letters digits c = some next) : next.allowance = 0 := by
  revert taken
  unfold tagStep
  split_ifs <;> intro taken <;> cases taken <;> rfl

theorem sequence_le {following next : Following} {c : Char} {width : Int}
    (found : sequence following c = some (width, next)) :
    width + following.allowance ≤ cost c + next.allowance := by
  revert found
  fun_cases sequence following c <;> intro found
  case case1 =>
    have nonpos := following.allowance_le
    cases found
    change 0 + following.allowance ≤ (cost c : Int) + 0
    omega
  -- Of the members of a sequence only regional indicators take columns.
  case case4 region _ | case7 region _ | case12 region _ =>
    have visible := one_le_cost_of_region region
    cases found
    simp [Following.allowance]
    omega
  case case14 even region _ =>
    have visible := one_le_cost_of_region region
    cases found
    cases even <;> simp [Following.allowance] <;> omega
  case case17 =>
    obtain ⟨taken, step, result⟩ := Option.map_eq_some_iff.mp found
    cases result
    rw [allowance_of_tagStep step]
    simp [Following.allowance]
  all_goals
    cases found <;> simp [Following.allowance]

theorem seesThrough_le {following next : Following} {c : Char}
    (found : seesThrough following c = some next) : following.allowance = next.allowance := by
  revert found
  fun_cases seesThrough following c <;> intro found <;> cases found <;> rfl

theorem allowance_select (following : Following) (selector : Selector) :
    (select following selector).allowance = if selector = .emoji then -1 else 0 := by
  fun_cases select following selector <;> simp_all [Context.allowance, Following.allowance]

theorem before_le (following : Following) (c : Char) :
    (before following c).1 + following.allowance ≤ cost c + (before following c).2.allowance := by
  have nonpos := following.allowance_le
  fun_cases before following c
  case case1 narrow _ | case2 narrow _ _ | case3 narrow _ _ =>
    have visible := one_le_cost_of_narrow narrow
    simp [Context.allowance, Following.allowance, Context.plain] at nonpos ⊢
    omega
  case case4 beyond _ | case9 beyond _ _ _ _ _ =>
    have := start_le (Nat.lt_of_not_le beyond)
    dsimp only
    omega
  case case5 selector =>
    have widened : 1 ≤ cost c := selector ▸ by decide +kernel
    simp only [allowance_select, if_true]
    omega
  case case6 =>
    simp only [allowance_select, reduceCtorEq, if_false]
    omega
  case case7 next found =>
    have kept := seesThrough_le found
    change 0 + following.allowance ≤ (cost c : Int) + (next.allowance + 0)
    omega
  case case8 width next found =>
    rw [Option.or_eq_some_iff] at found
    change width + following.allowance ≤ (cost c : Int) + (next.allowance + 0)
    rw [Int.add_zero]
    obtain found | ⟨_, found⟩ := found
    · exact ligature_le found
    · exact sequence_le found

theorem allowance_le_unselected (context : Context) :
    context.allowance ≤ (unselected context).allowance := by
  fun_cases unselected context
  case case1 none => simp [Context.allowance, none]
  case case2 | case3 => exact context.allowance_le

theorem step_le {after : Int × Context} {bound : Nat}
    (within : after.1 ≤ bound + after.2.allowance) (c : Char) :
    (step c after).1 ≤ (cost c + bound : Nat) + (step c after).2.allowance := by
  revert within
  fun_cases step c after <;> intro within
  case case1 total context selected inSequence =>
    have visible : 1 ≤ cost c := one_le_cost_of_apart (by decide +kernel) selected.2
    have spent : context.allowance ≤ -1 := by
      have nonpos := context.following.allowance_le
      simp only [Context.allowance, selected.1, if_true]
      omega
    change total + _ ≤ ((cost c + bound : Nat) : Int) + 0
    dsimp only at within
    split_ifs <;> omega
  case case2 total context _ selected =>
    have visible : 1 ≤ cost c := one_le_cost_of_apart (by decide +kernel) selected.2
    have nonpos := context.allowance_le
    change total + 1 ≤ ((cost c + bound : Nat) : Int) + 0
    dsimp only at within
    omega
  case case3 total context _ _ width next found =>
    have added := before_le (unselected context) c
    have kept := allowance_le_unselected context
    rw [found] at added
    dsimp only at added within ⊢
    omega

theorem foldr_step_le (text : List Char) :
    (text.foldr step (0, Context.plain)).1 ≤
      (text.map cost).sum + (text.foldr step (0, Context.plain)).2.allowance := by
  induction text with
  | nil => decide
  | cons c text ih => exact step_le ih c

/-! ### A text before others -/

theorem step_shift (c : Char) (n : Int) (after : Int × Context) :
    step c (n + after.1, after.2) = (n + (step c after).1, (step c after).2) := by
  unfold step
  dsimp only
  split_ifs <;> simp [Int.add_assoc]

theorem foldr_step_shift (text : List Char) (n : Int) (context : Context) :
    text.foldr step (n, context) =
      (n + (text.foldr step (0, context)).1, (text.foldr step (0, context)).2) := by
  induction text with
  | nil => simp
  | cons c text ih => rw [List.foldr_cons, ih, step_shift, List.foldr_cons]

end Columns

theorem columns_le_cost (text : List Char) : columns text ≤ (text.map Columns.cost).sum := by
  have within := Columns.foldr_step_le text
  have nonpos := (text.foldr Columns.step (0, Columns.Context.plain)).2.allowance_le
  rw [columns]
  omega

theorem sum_cost (text : List Char) :
    (text.map Columns.cost).sum = (text.map charColumns).sum + text.countP Columns.widens := by
  induction text with
  | nil => rfl
  | cons c text ih =>
    rw [List.map_cons, List.sum_cons, ih, List.map_cons, List.sum_cons, List.countP_cons,
      Columns.cost]
    omega

end TestHistory.Text

namespace TestHistory.Terminal

open Text

theorem takeColumns_eq (n : Nat) (text : List Char) :
    takeColumns n text = takeFitting charColumns n text := by
  fun_induction takeColumns n text with
  | case1 => rfl
  | case2 n c rest width fits ih => rw [takeFitting, if_pos fits, ih]
  | case3 n c rest width larger => rw [takeFitting, if_neg larger]

/-- A name shown in a number of columns. -/
structure Limits (name : String) (most : Nat) (shown : String) : Prop where
  width : columns shown.toList ≤ most
  whole : columns name.toList ≤ most → shown = name
  cut : most < columns name.toList → ∃ front, front <+: name.toList ∧
    shown.toList = front ++ if 3 < most then ellipsis.toList else []

def room (most : Nat) : Nat :=
  if 3 < most then most - 3 else most

theorem columns_append_ellipsis (front : List Char) (n : Nat) :
    columns (front ++ ellipsis.toList) ≤ n + 3 ↔ columns front ≤ n := by
  have dots : ellipsis.toList.foldr Columns.step (0, Columns.Context.plain) =
      (3, Columns.Context.plain) := by
    decide +kernel
  rw [columns, List.foldr_append, dots, Columns.foldr_step_shift, columns]
  omega

theorem fit_toList (name : String) (most : Nat) (wide : most < columns name.toList) :
    (fit name most).toList = takeFitting charColumns (room most) name.toList ++
      if 3 < most then ellipsis.toList else [] := by
  rw [fit, if_neg (Nat.not_le.mpr wide), room]
  split_ifs
  · rw [String.toList_append, String.toList_ofList, takeColumns_eq]
  · rw [String.toList_ofList, takeColumns_eq, List.append_nil]

theorem columns_fit_le_iff {name : String} {most : Nat} (wide : most < columns name.toList) :
    columns (fit name most).toList ≤ most ↔
      columns (takeFitting charColumns (room most) name.toList) ≤ room most := by
  rw [fit_toList name most wide, room]
  split_ifs with more
  · have dotted := columns_append_ellipsis
      (takeFitting charColumns (most - 3) name.toList) (most - 3)
    rwa [Nat.sub_add_cancel (Nat.le_of_lt more)] at dotted
  · rw [List.append_nil]

theorem columns_fit_le (name : String) (most : Nat) :
    columns (fit name most).toList ≤ most + name.toList.countP Columns.widens := by
  by_cases wide : most < columns name.toList
  · have front := start_takeFitting charColumns (room most) name.toList
    have fits := sum_takeFitting charColumns (room most) name.toList
    have kept := front.sublist.countP_le (p := Columns.widens)
    rw [fit_toList name most wide]
    generalize takeFitting charColumns (room most) name.toList = text at fits kept ⊢
    have whole := columns_le_cost text
    rw [sum_cost] at whole
    unfold room at fits
    split_ifs at fits ⊢ with more
    · have dotted := columns_append_ellipsis text (most - 3 + name.toList.countP Columns.widens)
      have := dotted.mpr (by omega)
      omega
    · rw [List.append_nil]
      omega
  · have narrow := Nat.le_of_not_lt wide
    rw [fit, if_pos narrow]
    omega

theorem limits_fit_iff (name : String) (most : Nat) :
    Limits name most (fit name most) ↔ columns (fit name most).toList ≤ most := by
  constructor
  · exact Limits.width
  · intro width
    refine ⟨width, ?_, ?_⟩
    · intro narrow
      rw [fit, if_pos narrow]
    · intro wide
      exact ⟨_, start_takeFitting _ _ _, fit_toList name most wide⟩

/-- A name with neither a control character nor one of two selectors keeps to its columns. -/
theorem fit_limits (name : String) (most : Nat) :
    (Limits name most (fit name most) ↔
      columns name.toList ≤ most ∨
        ∃ front, IsLongestStart charColumns (room most) name.toList front ∧
          columns front ≤ room most) ∧
    ((∀ c ∈ name.toList, Columns.widens c = false) → Limits name most (fit name most)) := by
  constructor
  · rw [limits_fit_iff]
    by_cases wide : most < columns name.toList
    · rw [columns_fit_le_iff wide, or_iff_right (Nat.not_le.mpr wide)]
      constructor
      · intro fits
        exact ⟨_, isLongestStart_takeFitting _ _, fits⟩
      · rintro ⟨front, longest, fits⟩
        rwa [← longest.eq]
    · have narrow := Nat.le_of_not_lt wide
      rw [fit, if_pos narrow]
      exact (or_iff_left_of_imp fun _ => narrow).symm
  · intro plain
    have none : name.toList.countP Columns.widens = 0 :=
      List.countP_eq_zero.mpr fun c member => Bool.eq_false_iff.mp (plain c member)
    have width := columns_fit_le name most
    rw [none] at width
    exact (limits_fit_iff name most).mpr width

/-- Alone a tab takes no column. -/
theorem fit_tabs_not_limits :
    let name := String.ofList (List.replicate 21 '\t')
    ¬ Limits name 20 (fit name 20) := by
  intro name limits
  have width := limits.width
  revert width
  decide +kernel

end TestHistory.Terminal
