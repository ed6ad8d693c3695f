import TestHistory.Page.Document
import TestHistory.Proofs.Markup

/-!
# The template of a report

What stands on the page before the data is tame. Its template depends on the shape of a report
alone: on how many runs, labels, rows, containers and cells there are, which cells hold a result,
which rows are flaky, and whether the latest run was dirty.
-/

namespace TestHistory

/-! ### Shapes -/

/-- What the layout of a row depends on. -/
structure RowShape where
  containers : Nat
  /-- The cells that hold a result. -/
  results : List Bool
  flaky : Bool
  deriving DecidableEq

/-- What the layout of the page depends on. -/
structure Shape where
  runs : Nat
  labels : Nat
  rows : List RowShape
  dirty : Bool
  deriving DecidableEq

def Row.shape (r : Row) : RowShape :=
  ⟨r.containers.length, r.cells.map fun cell => cell.record.isSome, r.isFlaky⟩

def Report.shape (r : Report) : Shape :=
  ⟨r.runs.length, r.labels.length, r.rows.map Row.shape, r.summary.latestDirty⟩

namespace Page

open Html

-- The tags and words of the page are literals, so whether they are tame is computed.
attribute [local simp] Fragment.template Fragment.isTame isTagName isNameChar isScriptName isPlain
  isAngle List.isPrefixOf

/-! ### Lists of nodes -/

theorem templates_zipIdx_congr {α σ : Type} {s : α → σ} {f g : α × Nat → Html}
    (each : ∀ x y i, s x = s y → (f (x, i)).template = (g (y, i)).template) {xs ys : List α}
    (same : xs.map s = ys.map s) (start : Nat) :
    templates ((xs.zipIdx start).map f) = templates ((ys.zipIdx start).map g) := by
  induction xs generalizing ys start with
  | nil =>
    obtain rfl := List.map_eq_nil_iff.mp same.symm
    rfl
  | cons x xs ih =>
    obtain ⟨y, ys, rfl, first, rest⟩ := List.map_eq_cons_iff.mp same.symm
    simp only [List.zipIdx_cons, List.map_cons, templates_cons, each x y start first.symm,
      ih rest.symm]

theorem templates_flatMap_congr {α : Type} {f : α → List Html}
    (each : ∀ x y, templates (f x) = templates (f y)) {xs ys : List α}
    (same : xs.length = ys.length) : templates (xs.flatMap f) = templates (ys.flatMap f) := by
  induction xs generalizing ys with
  | nil =>
    obtain rfl := List.eq_nil_of_length_eq_zero same.symm
    rfl
  | cons x xs ih =>
    obtain ⟨y, ys, rfl⟩ := List.exists_cons_of_length_eq_add_one same.symm
    rw [List.flatMap_cons, List.flatMap_cons, templates_append, templates_append, each x y,
      ih (Nat.succ.inj same)]

theorem templates_map_congr {α : Type} {f : α → Html} (each : ∀ x y, (f x).template = (f y).template)
    {xs ys : List α} (same : xs.length = ys.length) :
    templates (xs.map f) = templates (ys.map f) := by
  rw [List.map_eq_flatMap, List.map_eq_flatMap]
  refine templates_flatMap_congr (fun x y => ?_) same
  rw [templates_cons, templates_cons, each x y]

theorem areTame_flatMap {α : Type} {f : α → List Html} {xs : List α}
    (each : ∀ x, areTame (f x)) : areTame (xs.flatMap f) := by
  simp only [areTame_eq_all, List.all_flatMap] at each ⊢
  exact List.all_eq_true.mpr fun x _ => each x

theorem areTame_map {α : Type} {f : α → Html} {xs : List α} (each : ∀ x, (f x).isTame) :
    areTame (xs.map f) := by
  rw [areTame_eq_all, List.all_map]
  exact List.all_eq_true.mpr fun x _ => each x

/-! ### Icons -/

theorem isTame_draw (icon : Icon) (size : Nat) {color : String} (plain : isPlain color.toList) :
    (icon.draw size color).isTame := by
  have digits : isPlain (toString size).toList :=
    isPlain_of_delimiters (delimiters_figure (.ofNat size))
  have shape : areTame icon.shape := by
    cases icon <;>
      simp [Icon.shape, Icon.circle, Icon.stroke, Icon.path]
  have sized (name : String) (named : isPlain name.toList) : (attr name (toString size)).isTame := by
    rw [isTame_attr, named, digits]
    rfl
  have colored : (attr "stroke" color).isTame := by
    rw [isTame_attr, plain, Bool.and_true]
    decide
  rw [Icon.draw, isTame_element, shape]
  simp only [List.all_cons, sized "width" (by decide), sized "height" (by decide), colored]
  decide +kernel

theorem template_draw (icon : Icon) (size : Nat) (color : String) :
    (icon.draw size color).template = icon.draw size color := by
  cases icon <;> simp [Icon.draw, Icon.shape, Icon.circle, Icon.stroke, Icon.path]

/-! ### The dashboard -/

theorem areTame_figureCards (report : Report) : areTame (figureCards report) := by
  simp [figureCards, figureCard, trendLabel]

theorem templates_figureCards (a b : Report) :
    templates (figureCards a) = templates (figureCards b) := by
  simp [figureCards, figureCard, trendLabel]

theorem areTame_dirtyMark (summary : Summary) : areTame (dirtyMark summary) := by
  unfold dirtyMark
  split
  · simp
  · rfl

theorem templates_dirtyMark (summary : Summary) :
    templates (dirtyMark summary) = dirtyMark summary := by
  unfold dirtyMark
  split <;> simp

theorem isTame_commitCode (summary : Summary) : (commitCode summary).isTame := by
  have icon : (Icon.copy.draw 12 "currentColor").isTame := isTame_draw _ _ (by decide)
  simp [commitCode, icon]

theorem template_commitCode (s t : Summary) : (commitCode s).template = (commitCode t).template := by
  simp [commitCode, template_draw]

theorem isTame_latestCard (summary : Summary) : (latestCard summary).isTame := by
  simp [latestCard, latestFigure, areTame_dirtyMark, isTame_commitCode]

theorem template_latestCard {s t : Summary} (dirty : s.latestDirty = t.latestDirty) :
    (latestCard s).template = (latestCard t).template := by
  have mark : dirtyMark s = dirtyMark t := by
    rw [dirtyMark, dirtyMark, dirty]
  simp [latestCard, latestFigure, templates_dirtyMark, mark, template_commitCode s t]

theorem isTame_flakyCard (index : Nat) (row : Row) : (flakyCard index row).isTame := by
  simp [flakyCard]

theorem template_flakyCard (i j : Nat) (r q : Row) :
    (flakyCard i r).template = (flakyCard j q).template := by
  simp [flakyCard]

theorem length_flakyRows (rows : List Row) :
    (flakyRows rows).length = (rows.map fun row => row.isFlaky).count true := by
  rw [flakyRows, ← List.countP_eq_length_filter, List.count, List.countP_map]
  conv => rhs; rw [← List.zipIdx_map_fst 0 rows, List.countP_map]
  congr 1
  funext entry
  simp

theorem areTame_flakyCards (rows : List Row) : areTame (flakyCards rows) := by
  unfold flakyCards
  split
  · simp
  · rw [areTame_lines]
    exact areTame_map fun entry => isTame_flakyCard entry.2 entry.1

theorem templates_flakyCards {rows others : List Row}
    (same : rows.map (fun row => row.isFlaky) = others.map fun row => row.isFlaky) :
    templates (flakyCards rows) = templates (flakyCards others) := by
  have counts : (flakyRows rows).length = (flakyRows others).length := by
    rw [length_flakyRows, length_flakyRows, same]
  unfold flakyCards
  cases first : flakyRows rows with
  | nil =>
    rw [first] at counts
    rw [List.eq_nil_of_length_eq_zero counts.symm]
  | cons entry entries =>
    rw [first] at counts
    obtain ⟨other, rest, second⟩ := List.exists_cons_of_length_eq_add_one counts.symm
    rw [second] at counts ⊢
    dsimp only
    rw [templates_lines, templates_lines, templates_map_congr _ counts]
    exact fun r q => template_flakyCard r.2 q.2 r.1 q.1

theorem isTame_dashboard (report : Report) : (dashboard report).isTame := by
  have icon : (Icon.warning.draw 18 "#f59e0b").isTame := isTame_draw _ _ (by decide)
  simp [dashboard, charts, chartFrame, flakySection, icon, areTame_figureCards, isTame_latestCard,
    areTame_flakyCards]

theorem template_dashboard {a b : Report} (same : a.shape = b.shape) :
    (dashboard a).template = (dashboard b).template := by
  obtain ⟨-, -, rows, dirty⟩ := Shape.mk.inj same
  have flaky : a.rows.map (fun row => row.isFlaky) = b.rows.map fun row => row.isFlaky := by
    simpa [Function.comp_def, Row.shape] using congrArg (List.map RowShape.flaky) rows
  simp [dashboard, charts, chartFrame, flakySection, template_draw, templates_figureCards a b,
    template_latestCard dirty, templates_flakyCards flaky]

/-! ### The matrix -/

theorem isTame_labelChoice (label : String) : (labelChoice label).isTame := by
  simp [labelChoice]

theorem template_labelChoice (a b : String) : (labelChoice a).template = (labelChoice b).template := by
  simp [labelChoice]

theorem isTame_filters (labels : List String) : (filters labels).isTame := by
  have icon : (Icon.copy.draw 14 "currentColor").isTame := isTame_draw _ _ (by decide)
  have choices : areTame (labels.map labelChoice) := areTame_map isTame_labelChoice
  simp [filters, filterSelect, choice, icon, choices, isTame]

theorem template_filters {a b : List String} (same : a.length = b.length) :
    (filters a).template = (filters b).template := by
  simp [filters, filterSelect, choice, template_draw, template,
    templates_map_congr template_labelChoice same]

theorem isTame_runHeader (run : Run) (index : Nat) : (runHeader run index).isTame := by
  simp [runHeader, isTame]

theorem template_runHeader (r q : Run) (i j : Nat) :
    (runHeader r i).template = (runHeader q j).template := by
  simp [runHeader, template]

theorem areTame_headerCells (runs : List Run) : areTame (headerCells runs) := by
  simp [headerCells, areTame_map, isTame_runHeader]

theorem templates_headerCells {a b : List Run} (same : a.length = b.length) :
    templates (headerCells a) = templates (headerCells b) := by
  have places : a.zipIdx.length = b.zipIdx.length := by simpa using same
  rw [headerCells, headerCells, templates_append, templates_append]
  congr 1
  exact templates_map_congr (fun r q => template_runHeader r.1 q.1 r.2 q.2) places

theorem areTame_container (name : String) (index : Nat) : areTame (container name index) := by
  simp [container]

theorem templates_container (a b : String) (i j : Nat) :
    templates (container a i) = templates (container b j) := by
  simp [container]

theorem isTame_breadcrumb (containers : List String) (leaf : String) :
    (breadcrumb containers leaf).isTame := by
  simp [breadcrumb, areTame_flatMap, areTame_container]

theorem template_breadcrumb {a b : List String} (same : a.length = b.length) (leaf other : String) :
    (breadcrumb a leaf).template = (breadcrumb b other).template := by
  have places : a.zipIdx.length = b.zipIdx.length := by simpa using same
  simp only [breadcrumb, template_classed, templates_append, templates_cons, templates_nil,
    template_text]
  congr 2
  exact templates_flatMap_congr
    (fun name another => templates_container name.1 another.1 name.2 another.2) places

theorem isTame_nameCell (row : Row) : (nameCell row).isTame := by
  have icon : (Icon.copy.draw 14 "currentColor").isTame := isTame_draw _ _ (by decide)
  simp [nameCell, icon, isTame_breadcrumb]

theorem template_nameCell {r q : Row} (same : r.containers.length = q.containers.length) :
    (nameCell r).template = (nameCell q).template := by
  simp [nameCell, template_draw, template_breadcrumb same r.leafText q.leafText]

theorem isTame_statsCell (row : Row) : (statsCell row).isTame := by
  simp [statsCell]

theorem template_statsCell (r q : Row) : (statsCell r).template = (statsCell q).template := by
  simp [statsCell]

theorem isTame_runCell (row : Nat) (cell : Cell) (run : Nat) : (runCell row cell run).isTame := by
  unfold runCell
  split
  · simp [resultCell]
  · simp [absentCell]

theorem template_runCell {a b : Cell} (same : a.record.isSome = b.record.isSome) (i j m n : Nat) :
    (runCell i a m).template = (runCell j b n).template := by
  unfold runCell
  cases first : a.record <;> cases second : b.record <;>
    simp [first, second, resultCell] at same ⊢

theorem areTame_rowCells (row : Row) (index : Nat) : areTame (rowCells row index) := by
  simp [rowCells, areTame_map, isTame_nameCell, isTame_statsCell, isTame_runCell]

theorem templates_rowCells {r q : Row} (same : r.shape = q.shape) (i j : Nat) :
    templates (rowCells r i) = templates (rowCells q j) := by
  obtain ⟨containers, results, -⟩ := RowShape.mk.inj same
  simp only [rowCells, templates_append, templates_cons, template_nameCell containers,
    template_statsCell r q]
  congr 1
  exact templates_zipIdx_congr (fun _ _ run found => template_runCell found i j run run) results 0

theorem isTame_tableRow (row : Row) (index : Nat) : (tableRow row index).isTame := by
  simp [tableRow, areTame_rowCells]

theorem template_tableRow {r q : Row} (same : r.shape = q.shape) (i j : Nat) :
    (tableRow r i).template = (tableRow q j).template := by
  simp [tableRow, templates_rowCells same i j]

theorem isTame_resultsTable (report : Report) : (resultsTable report).isTame := by
  simp [resultsTable, areTame_headerCells, areTame_map, isTame_tableRow]

theorem template_resultsTable {a b : Report} (same : a.shape = b.shape) :
    (resultsTable a).template = (resultsTable b).template := by
  obtain ⟨runs, -, rows, -⟩ := Shape.mk.inj same
  simp only [resultsTable, template_element, templates_cons, templates_append, templates_lines,
    templates_headerCells runs]
  congr 8
  exact templates_zipIdx_congr (fun _ _ index shape => template_tableRow shape index index) rows 0

theorem isTame_matrix (report : Report) : (matrix report).isTame := by
  simp [matrix, isTame_resultsTable, isTame_filters]

theorem template_matrix {a b : Report} (same : a.shape = b.shape) :
    (matrix a).template = (matrix b).template := by
  have labels : a.labels.length = b.labels.length := congrArg Shape.labels same
  simp [matrix, template_filters labels, template_resultsTable same]

/-! ### The comparison -/

theorem isTame_runChoice (selected : Nat) (run : Run) (index : Nat) :
    (runChoice selected run index).isTame := by
  have mark : (Attribute.mk "selected" none).isTame := by decide
  unfold runChoice
  dsimp only
  split <;> simp [mark]

theorem template_runChoice (selected : Nat) (r q : Run) (index : Nat) :
    (runChoice selected r index).template = (runChoice selected q index).template := by
  simp [runChoice]

theorem isTame_runSelect {id : String} (plain : isPlain id.toList) (selected : Nat)
    (runs : List Run) : (runSelect id selected runs).isTame := by
  simp only [runSelect, isTame_element, List.all_cons, List.all_nil, isTame_attr, plain,
    areTame_append, areTame_lines, areTame_map, isTame_runChoice, implies_true]
  decide

theorem template_runSelect (id : String) (selected : Nat) {a b : List Run}
    (same : a.length = b.length) :
    (runSelect id selected a).template = (runSelect id selected b).template := by
  have units : a.map (fun _ => ()) = b.map fun _ => () := by
    rw [List.map_const', List.map_const', same]
  simp only [runSelect, template_element, templates_append, templates_lines]
  congr 3
  exact templates_zipIdx_congr (fun r q index _ => template_runChoice selected r q index) units 0

theorem isTame_comparison (runs : List Run) : (comparison runs).isTame := by
  have base : (runSelect "runASelect" 1 runs).isTame := isTame_runSelect (by decide) 1 runs
  have head : (runSelect "runBSelect" 0 runs).isTame := isTame_runSelect (by decide) 0 runs
  have failures : (Icon.error.draw 16 "#ef4444").isTame := isTame_draw _ _ (by decide)
  have fixed : (Icon.info.draw 16 "#10b981").isTame := isTame_draw _ _ (by decide)
  have regressions : (Icon.warning.draw 16 "#f59e0b").isTame := isTame_draw _ _ (by decide)
  simp [comparison, comparisonFigures, counter, changeList, runInfo, base, head, failures, fixed,
    regressions]

theorem template_comparison {a b : List Run} (same : a.length = b.length) :
    (comparison a).template = (comparison b).template := by
  simp [comparison, comparisonFigures, counter, changeList, runInfo, template_draw,
    template_runSelect "runASelect" 1 same, template_runSelect "runBSelect" 0 same]

/-! ### The page before the data -/

theorem isTame_header (options : Options) : (header options).isTame := by
  simp [header]

theorem template_header (o p : Options) : (header o).template = (header p).template := by
  simp [header]

theorem isTame_tabs (report : Report) : (tabs report).isTame := by
  unfold tabs
  dsimp only
  split <;> simp [tabButton]

theorem template_tabs {a b : Report} (same : hasComparison a = hasComparison b) :
    (tabs a).template = (tabs b).template := by
  simp [tabs, tabButton, same]

theorem areTame_comparisonTab (report : Report) : areTame (comparisonTab report) := by
  unfold comparisonTab
  split
  · simp [isTame_comparison]
  · rfl

theorem areTame_content (report : Report) (options : Options) : areTame (content report options) := by
  simp [content, modal, isTame_header, isTame_tabs, isTame_dashboard, isTame_matrix,
    areTame_comparisonTab]

theorem templates_content {a b : Report} (same : a.shape = b.shape) (o p : Options) :
    templates (content a o) = templates (content b p) := by
  have runs : a.runs.length = b.runs.length := congrArg Shape.runs same
  have both : hasComparison a = hasComparison b := by
    rw [hasComparison, hasComparison, runs]
  have comparisons : templates (comparisonTab a) = templates (comparisonTab b) := by
    unfold comparisonTab
    rw [both]
    split
    · simp [template_comparison runs]
    · rfl
  simp [content, modal, template_header o p, template_tabs both, template_dashboard same,
    template_matrix same, comparisons]

end Page

end TestHistory
