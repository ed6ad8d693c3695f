import TestHistory.Proofs.ColumnLimits
import TestHistory.Proofs.RowFigures
import TestHistory.Terminal.Listing

/-!
# Listings line by line

A listing has as many lines as it says unless something that it shows has a line break.
`unbroken_flakyLine` and `unbroken_comparedLine` say what that can be: the name of a test, or that
of a state.
-/

namespace TestHistory

namespace Text

/-! ### Counting lines -/

def lineCount (text : String) : Nat :=
  (pieces text.toList).length

def Unbroken (text : String) : Prop :=
  '\n' ∉ text.toList

instance (text : String) : Decidable (Unbroken text) :=
  inferInstanceAs (Decidable ('\n' ∉ text.toList))

/-- The text has these lines and no others. -/
def Prints (text : String) (lines : List String) : Prop :=
  pieces text.toList = lines.map fun line => line.toList ++ ['\n']

theorem length_addToPieces {c : Char} {rest : List (List Char)} (some : rest ≠ []) :
    (addToPieces c rest).length = rest.length + if c = '\n' then 1 else 0 := by
  obtain ⟨piece, more, rfl⟩ := List.exists_cons_of_ne_nil some
  unfold addToPieces
  split <;> rfl

theorem length_pieces_append (line text : List Char) :
    (pieces (line ++ '\n' :: text)).length = line.count '\n' + 1 + (pieces text).length := by
  induction line with
  | nil => simp [addToPieces, Nat.add_comm]
  | cons c line ih =>
    have some : pieces (line ++ '\n' :: text) ≠ [] := by
      intro none
      rw [none, List.length_nil] at ih
      omega
    rw [List.cons_append, pieces_cons, length_addToPieces some, ih, List.count_cons]
    simp only [beq_iff_eq]
    omega

end Text

namespace Terminal

open Text

theorem unlines_cons (line : String) (lines : List String) :
    unlines (line :: lines) = line ++ "\n" ++ unlines lines := by
  simp [unlines]

theorem unlines_append (a b : List String) : unlines (a ++ b) = unlines a ++ unlines b := by
  simp [unlines]

theorem unlines_flatMap {α : Type} (lines : α → List String) (xs : List α) :
    unlines (xs.flatMap lines) = String.join (xs.map fun x => unlines (lines x)) := by
  induction xs with
  | nil => rfl
  | cons x xs ih => rw [List.flatMap_cons, unlines_append, ih, List.map_cons, String.join_cons]

theorem toList_unlines_cons (line : String) (lines : List String) :
    (unlines (line :: lines)).toList = line.toList ++ '\n' :: (unlines lines).toList := by
  simp [unlines_cons]

theorem lineCount_unlines (lines : List String) :
    lineCount (unlines lines) =
      lines.length + (lines.map fun line => line.toList.count '\n').sum := by
  induction lines with
  | nil => rfl
  | cons line lines ih =>
    rw [lineCount] at ih ⊢
    rw [toList_unlines_cons, length_pieces_append, ih, List.length_cons, List.map_cons,
      List.sum_cons]
    omega

theorem lineCount_unlines_iff (lines : List String) :
    lineCount (unlines lines) = lines.length ↔ ∀ line ∈ lines, Unbroken line := by
  rw [lineCount_unlines, Nat.add_eq_left, List.sum_eq_zero_iff_forall_eq_nat]
  simp [Unbroken, List.count_eq_zero]

theorem prints_unlines_iff (lines : List String) :
    Prints (unlines lines) lines ↔ ∀ line ∈ lines, Unbroken line := by
  constructor
  · intro prints
    rw [← lineCount_unlines_iff, lineCount, prints, List.length_map]
  · intro unbroken
    induction lines with
    | nil => rfl
    | cons line lines ih =>
      obtain ⟨first, others⟩ := List.forall_mem_cons.mp unbroken
      rw [Prints, toList_unlines_cons, pieces_append_newline first, ih others, List.map_cons]

/-! ### What has no line break -/

@[simp] theorem unbroken_append (a b : String) : Unbroken (a ++ b) ↔ Unbroken a ∧ Unbroken b := by
  simp [Unbroken, String.toList_append]

theorem ne_newline_of_isDigit {c : Char} (digit : c.isDigit) : c ≠ '\n' := by
  rintro rfl
  exact absurd digit (by decide)

theorem newline_notMem_toDigits (n : Nat) : '\n' ∉ Nat.toDigits 10 n := fun member =>
  ne_newline_of_isDigit (Nat.isDigit_of_mem_toDigits (by decide) (by decide) member) rfl

@[simp] theorem unbroken_repr (n : Nat) : Unbroken n.repr := by
  rw [Unbroken, Nat.repr_eq_ofList_toDigits, String.toList_ofList]
  exact newline_notMem_toDigits n

theorem newline_notMem_placeDigits (places n : Nat) : '\n' ∉ Decimal.placeDigits places n := by
  intro member
  rcases Decimal.mem_placeDigits member with digit | point
  · exact ne_newline_of_isDigit digit rfl
  · exact absurd point (by decide)

@[simp] theorem unbroken_fixed (places : Nat) (x : Float) : Unbroken (Decimal.fixed places x) := by
  unfold Decimal.fixed
  split
  · decide
  · split <;> decide
  · rw [Unbroken, String.toList_ofList]
    split <;> simp [newline_notMem_placeDigits]

@[simp] theorem unbroken_padRight (width : Nat) (text : String) :
    Unbroken (padRight width text) ↔ Unbroken text := by
  simp [Unbroken, padRight, List.mem_replicate]

@[simp] theorem unbroken_padLeft (width : Nat) (text : String) :
    Unbroken (padLeft width text) ↔ Unbroken text := by
  simp [Unbroken, padLeft, List.mem_replicate]

theorem unbroken_apply {style : Style} (opening : Unbroken style.opening)
    (closing : Unbroken style.closing) (useColor : Bool) (text : String) :
    Unbroken (style.apply useColor text) ↔ Unbroken text := by
  unfold Style.apply
  split <;> simp [opening, closing]

@[simp] theorem unbroken_stateText (useColor : Bool) (state : TestState) :
    Unbroken (stateText useColor state) ↔ Unbroken state.name := by
  have codes : Unbroken (Style.ofState state).opening ∧ Unbroken (Style.ofState state).closing := by
    unfold Style.ofState
    split <;> decide
  exact unbroken_apply codes.1 codes.2 useColor state.name

theorem unbroken_fit {text : String} (unbroken : Unbroken text) (most : Nat) :
    Unbroken (fit text most) := by
  by_cases wide : most < columns text.toList
  · have front := start_takeFitting charColumns (room most) text.toList
    rw [Unbroken, fit_toList text most wide, List.mem_append]
    rintro (kept | dots)
    · exact unbroken (front.subset kept)
    · revert dots
      split <;> decide
  · rwa [fit, if_pos (Nat.le_of_not_lt wide)]

theorem unbroken_historyText (row : Row) : Unbroken (historyText row) := by
  rw [Unbroken, historyText, String.toList_join]
  simp only [List.mem_flatMap, List.mem_map]
  rintro ⟨_, ⟨outcome, -, rfl⟩, member⟩
  revert member
  cases outcome <;> decide

/-! ### Flaky tests -/

theorem unbroken_flakyLine (options : Options) (row : Row) :
    Unbroken (flakyLine options row) ↔
      Unbroken (fit row.testName (nameColumns options.width 40)) := by
  have score : Unbroken (Style.yellow.apply options.useColor
      (padLeft 3 (Decimal.fixed 0 row.flakiness) ++ "%")) := by
    rw [unbroken_apply (by decide) (by decide), unbroken_append, unbroken_padLeft]
    exact ⟨unbroken_fixed 0 row.flakiness, by decide⟩
  have pattern : Unbroken row.pattern.name := by
    cases row.pattern <;> decide
  have history := unbroken_fit (unbroken_historyText row) 10
  have blanks : Unbroken "  " := by decide
  have slash : Unbroken "/" := by decide
  simp [flakyLine, score, pattern, history, blanks, slash]

/-- A line for every flaky row and one with their number, or a remark that there are none. -/
structure FlakyListing (options : Options) (rows : List Row) (text : String) : Prop where
  none : rows.filter Row.isFlaky = [] → Prints text ["No flaky tests detected."]
  some : rows.filter Row.isFlaky ≠ [] → Prints text
    ((rows.filter Row.isFlaky).map (flakyLine options) ++
      ["", toString (rows.filter Row.isFlaky).length ++
        " flaky test(s); newest run first in history."])

theorem flakyListing_iff_prints (options : Options) (rows : List Row) (text : String) :
    FlakyListing options rows text ↔ Prints text (flakyLines options rows) := by
  unfold flakyLines
  split
  · rename_i none
    exact ⟨fun listing => listing.none none, fun prints => ⟨fun _ => prints, (absurd none ·)⟩⟩
  · rename_i some
    exact ⟨fun listing => listing.some some, fun prints => ⟨(absurd · some), fun _ => prints⟩⟩

theorem unbroken_flakyLines (options : Options) (rows : List Row) :
    (∀ line ∈ flakyLines options rows, Unbroken line) ↔
      ∀ row ∈ rows, row.isFlaky = true →
        Unbroken (fit row.testName (nameColumns options.width 40)) := by
  have remarks : Unbroken "No flaky tests detected." ∧ Unbroken "" ∧
      Unbroken " flaky test(s); newest run first in history." := by
    decide
  have listed : (∀ line ∈ flakyLines options rows, Unbroken line) ↔
      ∀ row ∈ rows.filter Row.isFlaky, Unbroken (flakyLine options row) := by
    unfold flakyLines
    split
    · rename_i none
      simp [none, remarks]
    · simp only [List.forall_mem_append, List.forall_mem_map, List.forall_mem_cons]
      simp [remarks]
  simp only [listed, unbroken_flakyLine, List.mem_filter, and_imp]

/-! ### Comparisons -/

theorem unbroken_comparedLine (options : Options) (t : ComparedTest) :
    Unbroken (comparedLine options t) ↔
      Unbroken (fit t.row.testName (nameColumns options.width 24)) ∧
        Unbroken t.base.state.name ∧ Unbroken t.head.state.name := by
  have parts : ∀ part ∈ ["  ", "s -> ", "s  [", " -> ", "]"], Unbroken part := by decide
  simp only [List.forall_mem_cons] at parts
  simp [comparedLine, parts, and_assoc]

structure Section where
  title : String
  remark : String
  tests : List ComparedTest

def sections (c : Comparison) : List Section := [
  ⟨"New failures", "No new failures", c.newFailures⟩,
  ⟨"Fixed", "No fixed tests", c.fixed⟩,
  ⟨"Regressions", "No regressions detected", c.regressions⟩]

namespace Section

variable (options : Options) (part : Section)

def heading : String :=
  Style.bold.apply options.useColor (part.title ++ " (" ++ toString part.tests.length ++ ")")

def bodyLines : List String :=
  if part.tests.isEmpty then ["  " ++ part.remark] else part.tests.map (comparedLine options)

/-- What stands under the heading. -/
def body : String :=
  unlines (part.bodyLines options)

theorem length_bodyLines : (part.bodyLines options).length = max 1 part.tests.length := by
  unfold bodyLines
  cases part.tests with
  | nil => rfl
  | cons t tests =>
    rw [List.isEmpty_cons, if_neg Bool.false_ne_true, List.length_map, List.length_cons]
    omega

theorem unbroken_bodyLines (plain : Unbroken part.remark) :
    (∀ line ∈ part.bodyLines options, Unbroken line) ↔
      ∀ t ∈ part.tests, Unbroken (comparedLine options t) := by
  have blanks : Unbroken "  " := by decide
  unfold bodyLines
  cases part.tests with
  | nil => simp [plain, blanks]
  | cons t tests => rw [List.isEmpty_cons, if_neg Bool.false_ne_true, List.forall_mem_map]

theorem lineCount_body_iff (plain : Unbroken part.remark) :
    lineCount (part.body options) = max 1 part.tests.length ↔
      ∀ t ∈ part.tests, Unbroken (comparedLine options t) := by
  rw [body, ← length_bodyLines options, lineCount_unlines_iff, unbroken_bodyLines options part plain]

end Section

theorem unlines_sectionLines (options : Options) (part : Section) :
    unlines (sectionLines options part.title part.remark part.tests) =
      "\n" ++ part.heading options ++ "\n" ++ part.body options := by
  have lines : sectionLines options part.title part.remark part.tests =
      "" :: part.heading options :: part.bodyLines options := rfl
  rw [lines, unlines_cons, unlines_cons, String.empty_append, Section.body]
  simp only [String.append_assoc]

theorem comparisonText_eq (options : Options) (c : Comparison) :
    comparisonText options c =
      unlines ((comparisonLines options c).take 3) ++
        String.join ((sections c).map fun part =>
          "\n" ++ part.heading options ++ "\n" ++ part.body options) := by
  have lines : comparisonLines options c = (comparisonLines options c).take 3 ++
      (sections c).flatMap fun part =>
        sectionLines options part.title part.remark part.tests := by
    simp [comparisonLines, sections]
  calc comparisonText options c
    _ = unlines ((comparisonLines options c).take 3) ++
          unlines ((sections c).flatMap fun part =>
            sectionLines options part.title part.remark part.tests) := by
      rw [← unlines_append, ← lines, comparisonText]
    _ = _ := by
      rw [unlines_flatMap]
      simp only [unlines_sectionLines]

/-- A listing has the lines that it says unless it shows a name with a line break. -/
theorem listings_lines (options : Options) :
    (∀ rows : List Row, FlakyListing options rows (flakyText options rows) ↔
      ∀ row ∈ rows, row.isFlaky = true →
        Unbroken (fit row.testName (nameColumns options.width 40))) ∧
    ∀ c : Comparison,
      comparisonText options c =
        unlines ((comparisonLines options c).take 3) ++
          String.join ((sections c).map fun part =>
            "\n" ++ part.heading options ++ "\n" ++ part.body options) ∧
      ((∀ part ∈ sections c, lineCount (part.body options) = max 1 part.tests.length) ↔
        ∀ part ∈ sections c, ∀ t ∈ part.tests,
          Unbroken (fit t.row.testName (nameColumns options.width 24)) ∧
            Unbroken t.base.state.name ∧ Unbroken t.head.state.name) := by
  constructor
  · intro rows
    rw [flakyListing_iff_prints, flakyText, prints_unlines_iff, unbroken_flakyLines]
  · intro c
    refine ⟨comparisonText_eq options c, ?_⟩
    have plain : ∀ part ∈ sections c, Unbroken part.remark := by
      simp only [sections, List.forall_mem_cons]
      decide
    simp only [← unbroken_comparedLine]
    exact forall₂_congr fun part member => part.lineCount_body_iff options (plain part member)

/-! ### A name with a line break -/

namespace BrokenName

def test (state : TestState) : TestRecord := .bare "a\nb" state

def row : Row :=
  Pivot.row [.bare "2" [test .failed], .bare "1" [test .passed]] "a\nb"

end BrokenName

/-- One flaky row takes two lines. -/
theorem flakyText_splitRow : ¬ FlakyListing ⟨false, 80⟩ [BrokenName.row]
    (flakyText ⟨false, 80⟩ [BrokenName.row]) := by
  rw [flakyListing_iff_prints, flakyText, prints_unlines_iff, unbroken_flakyLines]
  intro unbroken
  have shown := unbroken _ (List.mem_singleton_self _) (by decide)
  revert shown
  decide +kernel

end Terminal

end TestHistory
