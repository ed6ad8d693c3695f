import Mathlib.Algebra.Ring.Nat
import Mathlib.Data.String.Basic
import TestHistory.Text.Lines

/-!
# Texts that are cut

A text is cut to a number of lines at its start, or to a number of columns at its end.
`IsLines` says what the lines are, and `IsLongestStart` that no character more would fit.
-/

namespace TestHistory.Text

/-- The lines of a text, each with the newline that ends it. The last line may go without one. -/
inductive IsLines : List Char → List (List Char) → Prop where
  | none : IsLines [] []
  | last {line : List Char} (some : line ≠ []) (unbroken : '\n' ∉ line) : IsLines line [line]
  | cons {line text : List Char} {lines : List (List Char)} (unbroken : '\n' ∉ line)
      (rest : IsLines text lines) : IsLines (line ++ '\n' :: text) ((line ++ ['\n']) :: lines)

theorem isLines_pieces (text : List Char) : IsLines text (pieces text) := by
  induction text with
  | nil => exact .none
  | cons c text ih =>
    rw [pieces_cons]
    generalize pieces text = lines at ih
    unfold addToPieces
    split
    · rename_i newline
      subst newline
      exact .cons List.not_mem_nil ih
    · rename_i other
      -- The character joins the line that the rest of the text begins with.
      have unbroken {line : List Char} (inner : '\n' ∉ line) : '\n' ∉ c :: line :=
        List.not_mem_cons_of_ne_of_not_mem (Ne.symm other) inner
      cases ih with
      | none => exact .last (List.cons_ne_nil c []) (unbroken List.not_mem_nil)
      | last some inner => exact .last (List.cons_ne_nil c _) (unbroken inner)
      | cons inner rest => exact .cons (unbroken inner) rest

theorem pieces_append_newline {line : List Char} (unbroken : '\n' ∉ line) (text : List Char) :
    pieces (line ++ '\n' :: text) = (line ++ ['\n']) :: pieces text := by
  induction line with
  | nil => rfl
  | cons c line ih =>
    have other : c ≠ '\n' := fun newline => unbroken (newline ▸ List.mem_cons_self)
    have inner : '\n' ∉ line := fun member => unbroken (List.mem_cons_of_mem c member)
    rw [List.cons_append, pieces_cons, ih inner, addToPieces, if_neg other]
    rfl

theorem pieces_of_unbroken {line : List Char} (some : line ≠ []) (unbroken : '\n' ∉ line) :
    pieces line = [line] := by
  induction line with
  | nil => exact absurd rfl some
  | cons c line ih =>
    have other : c ≠ '\n' := fun newline => unbroken (newline ▸ List.mem_cons_self)
    have inner : '\n' ∉ line := fun member => unbroken (List.mem_cons_of_mem c member)
    rw [pieces_cons]
    by_cases empty : line = []
    · rw [empty, pieces_nil, addToPieces, if_neg other]
    · rw [ih empty inner, addToPieces, if_neg other]

namespace IsLines

variable {text : List Char} {lines : List (List Char)}

theorem eq_pieces (whole : IsLines text lines) : lines = pieces text := by
  induction whole with
  | none => rfl
  | last some unbroken => rw [pieces_of_unbroken some unbroken]
  | cons unbroken rest ih => rw [pieces_append_newline unbroken, ih]

theorem drop (whole : IsLines text lines) (k : Nat) :
    IsLines (lines.drop k).flatten (lines.drop k) := by
  induction k generalizing text lines with
  | zero =>
    rw [List.drop_zero, whole.eq_pieces, flatten_pieces]
    exact isLines_pieces text
  | succ k ih =>
    cases whole with
    | none => exact .none
    | last => rw [List.drop_succ_cons, List.drop_nil]; exact .none
    | cons unbroken rest => exact ih rest

end IsLines

/-- A whole text is all of its lines. -/
theorem tailLines_eq (text : String) (maxLines : Nat) : tailLines text maxLines =
    let lines := pieces text.toList
    ⟨String.ofList (lines.drop (lines.length - maxLines)).flatten, lines.length,
      decide (maxLines < lines.length)⟩ := by
  dsimp only
  rw [tailLines]
  split
  · rename_i fits
    rw [Nat.sub_eq_zero_of_le fits, List.drop_zero, flatten_pieces, String.ofList_toList,
      decide_eq_false (Nat.not_lt.mpr fits)]
  · rename_i larger
    rw [decide_eq_true (Nat.lt_of_not_le larger)]

/-! ### Starts that fit -/

/-- The longest start of a text whose characters have no more than a total size. -/
structure IsLongestStart (size : Char → Nat) (n : Nat) (text front : List Char) : Prop where
  start : front <+: text
  fits : (front.map size).sum ≤ n
  longest : ∀ other, other <+: text → (other.map size).sum ≤ n → other <+: front

def takeFitting (size : Char → Nat) : Nat → List Char → List Char
  | _, [] => []
  | n, c :: rest => if size c ≤ n then c :: takeFitting size (n - size c) rest else []

section

variable {size : Char → Nat}

theorem start_takeFitting (size : Char → Nat) (n : Nat) (text : List Char) :
    takeFitting size n text <+: text := by
  fun_induction takeFitting size n text with
  | case1 => exact List.nil_prefix
  | case2 n c rest fits ih => exact List.prefix_cons_inj c |>.mpr ih
  | case3 => exact List.nil_prefix

theorem sum_takeFitting (size : Char → Nat) (n : Nat) (text : List Char) :
    ((takeFitting size n text).map size).sum ≤ n := by
  fun_induction takeFitting size n text with
  | case1 => exact Nat.zero_le _
  | case2 n c rest fits ih =>
    rw [List.map_cons, List.sum_cons]
    omega
  | case3 => exact Nat.zero_le _

theorem prefix_takeFitting {n : Nat} {front text : List Char} (start : front <+: text)
    (fits : (front.map size).sum ≤ n) : front <+: takeFitting size n text := by
  induction front generalizing n text with
  | nil => exact List.nil_prefix
  | cons c front ih =>
    obtain ⟨rest, rfl, below⟩ := List.cons_prefix_iff.mp start
    rw [List.map_cons, List.sum_cons] at fits
    rw [takeFitting, if_pos (by omega), List.prefix_cons_inj]
    exact ih below (by omega)

theorem isLongestStart_takeFitting (n : Nat) (text : List Char) :
    IsLongestStart size n text (takeFitting size n text) :=
  ⟨start_takeFitting size n text, sum_takeFitting size n text, fun _ => prefix_takeFitting⟩

theorem IsLongestStart.eq {n : Nat} {text front : List Char}
    (fit : IsLongestStart size n text front) : front = takeFitting size n text := by
  have shorter := prefix_takeFitting fit.start fit.fits
  have longer := fit.longest _ (start_takeFitting size n text) (sum_takeFitting size n text)
  exact shorter.eq_of_length_le longer.length_le

end

end TestHistory.Text
