import TestHistory.Proofs.ReportMarkup

/-!
# Finding things on the page

`allNodes` lists a tree in page order. From it come the elements that a reader looks for, the table
with the results, its rows and cells and the cards of flaky tests, and the values that the script is
given. `landmarks_content` and `given_document` say what there is to find.
-/

namespace TestHistory.Page

namespace Html

mutual

/-- A node and everything inside it, in page order. -/
def nodes : Html → List Html
  | fragment f => [fragment f]
  | element name attributes children => element name attributes children :: allNodes children
  | void name attributes => [void name attributes]

def allNodes : List Html → List Html
  | [] => []
  | node :: rest => node.nodes ++ allNodes rest

end

theorem allNodes_append (a b : List Html) : allNodes (a ++ b) = allNodes a ++ allNodes b := by
  induction a with
  | nil => rfl
  | cons node rest ih => rw [List.cons_append, allNodes, ih, allNodes, List.append_assoc]

mutual

theorem isTame_of_mem_nodes (h : Html) (tame : h.isTame) : ∀ node ∈ h.nodes, node.isTame := by
  match h with
  | .fragment f => exact List.forall_mem_singleton.mpr tame
  | .element name attributes children =>
    have childrenTame := ((Bool.and_eq_true _ _).mp tame).2
    exact List.forall_mem_cons.mpr ⟨tame, isTame_of_mem_allNodes children childrenTame⟩
  | .void name attributes => exact List.forall_mem_singleton.mpr tame

theorem isTame_of_mem_allNodes (nodes : List Html) (tame : areTame nodes) :
    ∀ node ∈ allNodes nodes, node.isTame := by
  match nodes with
  | [] => exact List.forall_mem_nil _
  | node :: rest =>
    rw [areTame, Bool.and_eq_true] at tame
    exact List.forall_mem_append.mpr
      ⟨isTame_of_mem_nodes node tame.1, isTame_of_mem_allNodes rest tame.2⟩

end

def children : Html → List Html
  | element _ _ children => children
  | _ => []

def attributes : Html → List Attribute
  | element _ attributes _ | void _ attributes => attributes
  | fragment _ => []

def isNamed (name : String) : Html → Bool
  | element other _ _ | void other _ => other = name
  | fragment _ => false

/-- The children with a tag. -/
def childrenNamed (name : String) (h : Html) : List Html :=
  h.children.filter (isNamed name)

/-- The text between the tags. -/
def content (h : Html) : String :=
  render h.children

end Html

/-- What is written between the quotes. -/
def Attribute.written? (a : Attribute) : Option String :=
  a.value.map fun fragments => String.ofList (fragments.flatMap Fragment.chars)

/-- Of several attributes with the name the first one counts. -/
def written? (name : String) : List Attribute → Option String
  | [] => none
  | a :: rest => if a.name = name then a.written? else written? name rest

def Html.attribute? (name : String) (h : Html) : Option String :=
  written? name h.attributes

@[simp] theorem name_attr (name value : String) : (attr name value).name = name := rfl

@[simp] theorem name_attrOf (name : String) (fragments : List Fragment) :
    (attrOf name fragments).name = name := rfl

@[simp] theorem written?_attr (name value : String) : (attr name value).written? = some value := by
  simp [attr, Attribute.written?, Fragment.chars]

@[simp] theorem written?_attrOf (name : String) (fragments : List Fragment) :
    (attrOf name fragments).written? = some (String.ofList (fragments.flatMap Fragment.chars)) :=
  rfl

/-! ### Landmarks -/

def isTable (h : Html) : Bool :=
  h.isNamed "table"

def tablePartNames : List String :=
  ["table", "tr", "th", "td"]

/-- A table, or a row or a cell of one. -/
def isTablePart (h : Html) : Bool :=
  tablePartNames.any h.isNamed

def isFlakyCard (h : Html) : Bool :=
  h.isNamed "div" && h.attribute? "class" = some "card flaky-card"

def isLandmark (h : Html) : Bool :=
  isTablePart h || isFlakyCard h

/-- The parts of tables and the cards of flaky tests. -/
def landmarks (page : List Html) : List Html :=
  (Html.allNodes page).filter isLandmark

def Html.landmarks (h : Html) : List Html :=
  h.nodes.filter isLandmark

@[simp] theorem landmarks_nil : landmarks [] = [] := rfl

@[simp] theorem landmarks_cons (node : Html) (rest : List Html) :
    landmarks (node :: rest) = node.landmarks ++ landmarks rest :=
  List.filter_append ..

@[simp] theorem landmarks_append (a b : List Html) :
    landmarks (a ++ b) = landmarks a ++ landmarks b := by
  rw [landmarks, Html.allNodes_append, List.filter_append]
  rfl

@[simp] theorem landmarks_fragment (f : Fragment) : (Html.fragment f).landmarks = [] := rfl

@[simp] theorem landmarks_raw (s : String) : (raw s).landmarks = [] := rfl

@[simp] theorem landmarks_text (s : String) : (text s).landmarks = [] := rfl

@[simp] theorem landmarks_figure (f : Figure) : (figure f).landmarks = [] := rfl

@[simp] theorem landmarks_number (n : Nat) : (number n).landmarks = [] := rfl

@[simp] theorem landmarks_line (indent : Nat) : (line indent).landmarks = [] := rfl

/-- The tag of a landmark. -/
def MarksPlace (name : String) (attributes : List Attribute) : Prop :=
  name ∈ tablePartNames ∨ name = "div" ∧ written? "class" attributes = some "card flaky-card"

instance (name : String) (attributes : List Attribute) : Decidable (MarksPlace name attributes) :=
  inferInstanceAs (Decidable (_ ∨ _))

theorem isLandmark_element {name : String} {attributes : List Attribute} {children : List Html} :
    isLandmark (.element name attributes children) ↔ MarksPlace name attributes := by
  rw [isLandmark, isTablePart, isFlakyCard, Bool.or_eq_true, Bool.and_eq_true]
  refine or_congr ?_ (and_congr decide_eq_true_iff decide_eq_true_iff)
  simp [Html.isNamed]

@[simp] theorem landmarks_element (name : String) (attributes : List Attribute)
    (children : List Html) : (element name attributes children).landmarks =
      if MarksPlace name attributes then
        element name attributes children :: landmarks children
      else landmarks children := by
  rw [← if_congr isLandmark_element rfl rfl]
  exact List.filter_cons ..

@[simp] theorem landmarks_classed (name className : String) (children : List Html) :
    (classed name className children).landmarks =
      if MarksPlace name [attr "class" className] then
        classed name className children :: landmarks children
      else landmarks children :=
  landmarks_element ..

@[simp] theorem landmarks_void (name : String) (attributes : List Attribute) :
    (Html.void name attributes).landmarks =
      if MarksPlace name attributes then [.void name attributes] else [] := by
  rw [← if_congr (@isLandmark_element name attributes []) rfl rfl]
  exact List.filter_cons ..

attribute [local simp] written? MarksPlace tablePartNames

@[simp] theorem landmarks_lines (indent : Nat) (nodes : List Html) :
    landmarks (lines indent nodes) = landmarks nodes := by
  induction nodes with
  | nil => rfl
  | cons node rest ih =>
    change landmarks (line indent :: node :: lines indent rest) = _
    rw [landmarks_cons, landmarks_cons, ih, landmarks_line, List.nil_append, landmarks_cons]

theorem landmarks_map {α : Type} {f : α → Html} {xs : List α} (none : ∀ x, (f x).landmarks = []) :
    landmarks (xs.map f) = [] := by
  induction xs with
  | nil => rfl
  | cons x xs ih => rw [List.map_cons, landmarks_cons, none, ih, List.append_nil]

theorem landmarks_map_self {α : Type} {f : α → Html} {xs : List α}
    (each : ∀ x, (f x).landmarks = [f x]) : landmarks (xs.map f) = xs.map f := by
  induction xs with
  | nil => rfl
  | cons x xs ih => rw [List.map_cons, landmarks_cons, each, ih, List.singleton_append]

theorem landmarks_flatMap {α : Type} {f : α → List Html} {xs : List α}
    (none : ∀ x, landmarks (f x) = []) : landmarks (xs.flatMap f) = [] := by
  induction xs with
  | nil => rfl
  | cons x xs ih => rw [List.flatMap_cons, landmarks_append, none, ih, List.append_nil]

theorem landmarks_draw (icon : Icon) (size : Nat) (color : String) :
    (icon.draw size color).landmarks = [] := by
  cases icon <;> simp [Icon.draw, Icon.shape, Icon.circle, Icon.stroke, Icon.path]

/-! #### The dashboard -/

theorem landmarks_figureCards (report : Report) : landmarks (figureCards report) = [] := by
  simp [figureCards, figureCard, trendLabel]

theorem landmarks_dirtyMark (summary : Summary) : landmarks (dirtyMark summary) = [] := by
  unfold dirtyMark
  split <;> simp

theorem landmarks_latestCard (summary : Summary) : (latestCard summary).landmarks = [] := by
  simp [latestCard, latestFigure, commitCode, landmarks_dirtyMark, landmarks_draw]

theorem landmarks_flakyCard (index : Nat) (row : Row) :
    (flakyCard index row).landmarks = [flakyCard index row] := by
  simp [flakyCard]

theorem landmarks_flakyCards (rows : List Row) :
    landmarks (flakyCards rows) = (flakyRows rows).map fun (row, index) => flakyCard index row := by
  have each (entry : Row × Nat) :
      (flakyCard entry.2 entry.1).landmarks = [flakyCard entry.2 entry.1] :=
    landmarks_flakyCard ..
  unfold flakyCards
  split
  · rename_i none
    simp [none]
  · rw [landmarks_lines, landmarks_map_self each]

theorem landmarks_dashboard (report : Report) : (dashboard report).landmarks =
    (flakyRows report.rows).map fun (row, index) => flakyCard index row := by
  simp [dashboard, charts, chartFrame, flakySection, landmarks_draw, landmarks_figureCards,
    landmarks_latestCard, landmarks_flakyCards]

/-! #### The matrix -/

theorem landmarks_filters (labels : List String) : (filters labels).landmarks = [] := by
  have choices : landmarks (labels.map labelChoice) = [] :=
    landmarks_map fun label => by simp [labelChoice]
  simp [filters, filterSelect, choice, landmarks_draw, choices]

theorem landmarks_headerCells (runs : List Run) :
    landmarks (headerCells runs) = headerCells runs := by
  have headers (entry : Run × Nat) :
      (runHeader entry.1 entry.2).landmarks = [runHeader entry.1 entry.2] := by
    simp [runHeader]
  simp [headerCells, landmarks_map_self headers]

theorem landmarks_breadcrumb (containers : List String) (leaf : String) :
    (breadcrumb containers leaf).landmarks = [] := by
  have levels (entry : String × Nat) : landmarks (container entry.1 entry.2) = [] := by
    simp [container]
  simp [breadcrumb, landmarks_flatMap levels]

theorem landmarks_nameCell (row : Row) : (nameCell row).landmarks = [nameCell row] := by
  simp [nameCell, landmarks_breadcrumb, landmarks_draw]

theorem landmarks_statsCell (row : Row) : (statsCell row).landmarks = [statsCell row] := by
  have other (rest : String) : "p" ++ rest ≠ "card flaky-card" := by
    intro same
    have first := congrArg (fun name : String => name.toList.head?) same
    simp at first
  simp [statsCell, Fragment.chars, other]

theorem landmarks_runCell (row : Nat) (cell : Cell) (run : Nat) :
    (runCell row cell run).landmarks = [runCell row cell run] := by
  unfold runCell
  split
  · simp [resultCell]
  · simp [absentCell]

theorem landmarks_rowCells (row : Row) (index : Nat) :
    landmarks (rowCells row index) = rowCells row index := by
  have cells (entry : Cell × Nat) :
      (runCell index entry.1 entry.2).landmarks = [runCell index entry.1 entry.2] :=
    landmarks_runCell ..
  simp [rowCells, landmarks_nameCell, landmarks_statsCell, landmarks_map_self cells]

/-- A row of the table and its cells. -/
def rowParts (entry : Row × Nat) : List Html :=
  tableRow entry.1 entry.2 :: rowCells entry.1 entry.2

def headRow (runs : List Run) : Html :=
  element "tr" [] (lines 28 (headerCells runs) ++ [line 24])

/-- The table of results, its rows and their cells, in page order. -/
def tableParts (report : Report) : List Html :=
  resultsTable report :: headRow report.runs ::
    (headerCells report.runs ++ report.rows.zipIdx.flatMap rowParts)

theorem landmarks_tableRows (entries : List (Row × Nat)) :
    landmarks (entries.map fun (row, index) => tableRow row index) = entries.flatMap rowParts := by
  have row (entry : Row × Nat) : (tableRow entry.1 entry.2).landmarks = rowParts entry := by
    simp [tableRow, rowParts, landmarks_rowCells]
  induction entries with
  | nil => rfl
  | cons entry entries ih => rw [List.map_cons, landmarks_cons, row, ih, List.flatMap_cons]

theorem landmarks_resultsTable (report : Report) :
    (resultsTable report).landmarks = tableParts report := by
  simp [resultsTable, tableParts, headRow, landmarks_headerCells, landmarks_tableRows]

theorem landmarks_matrix (report : Report) : (matrix report).landmarks = tableParts report := by
  simp [matrix, landmarks_filters, landmarks_resultsTable]

/-! #### The comparison -/

theorem landmarks_runChoice (selected : Nat) (run : Run) (index : Nat) :
    (runChoice selected run index).landmarks = [] := by
  simp [runChoice]

theorem landmarks_runSelect (id : String) (selected : Nat) (runs : List Run) :
    (runSelect id selected runs).landmarks = [] := by
  have choices (entry : Run × Nat) : (runChoice selected entry.1 entry.2).landmarks = [] :=
    landmarks_runChoice ..
  simp [runSelect, landmarks_map choices]

theorem landmarks_comparison (runs : List Run) : (comparison runs).landmarks = [] := by
  simp [comparison, landmarks_runSelect, runInfo, comparisonFigures, counter, changeList,
    landmarks_draw]

/-! #### The page -/

theorem landmarks_tabs (report : Report) : (tabs report).landmarks = [] := by
  unfold tabs
  dsimp only
  split <;> simp [tabButton]

theorem landmarks_comparisonTab (report : Report) : landmarks (comparisonTab report) = [] := by
  unfold comparisonTab
  split <;> simp [landmarks_comparison]

theorem landmarks_head (options : Options) : (head options).landmarks = [] := by
  simp [head]

theorem landmarks_header (options : Options) : (header options).landmarks = [] := by
  simp [header]

theorem landmarks_modal (id title : String) : (modal id title).landmarks = [] := by
  simp [modal]

theorem landmarks_dataScript (report : Report) : (dataScript report).landmarks = [] := by
  simp [dataScript, dataLine]

theorem landmarks_content (report : Report) (options : Options) :
    landmarks (content report options) =
      ((flakyRows report.rows).map fun (row, index) => flakyCard index row) ++
        tableParts report := by
  simp [content, landmarks_tabs, landmarks_comparisonTab, landmarks_header, landmarks_modal,
    landmarks_dashboard, landmarks_matrix]

theorem landmarks_document (report : Report) (options : Options) :
    landmarks (document report options) = landmarks (content report options) := by
  simp [document, body, landmarks_head, landmarks_dataScript]

/-! ### Values for the script -/

def Html.fragment? : Html → Option Fragment
  | .fragment f => some f
  | _ => none

/-- What stands between the tags, in page order. -/
def fragments (page : List Html) : List Fragment :=
  (Html.allNodes page).filterMap Html.fragment?

def Fragment.isData : Fragment → Bool
  | data _ => true
  | _ => false

@[simp] theorem isData_markup (s : String) : (Fragment.markup s).isData = false := rfl

@[simp] theorem isData_text (s : String) : (Fragment.text s).isData = false := rfl

/-- A value that follows right after words of the page, with these words. -/
def givenBy? : Fragment → List Fragment → Option (String × Json.Value)
  | .markup words, .data value :: _ => some (words, value)
  | _, _ => none

def given : List Fragment → List (String × Json.Value)
  | [] => []
  | f :: rest => (givenBy? f rest).toList ++ given rest

/-- What the script is given under a name, as its text reads. -/
def globalValue? (name : String) (page : List Html) : Option Json.Tree :=
  ((given (fragments page)).lookup ("window." ++ name ++ " = ")).bind fun value =>
    Json.Tree.parse? (scriptJson value)

theorem givenBy?_eq_none {f : Fragment} {rest : List Fragment}
    (none : ∀ next ∈ rest.head?, next.isData = false) : givenBy? f rest = Option.none := by
  unfold givenBy?
  split
  · exact nomatch none _ rfl
  · rfl

theorem given_append {front : List Fragment} (none : ∀ f ∈ front, f.isData = false) (words : String)
    (rest : List Fragment) :
    given (front ++ .markup words :: rest) = given (.markup words :: rest) := by
  induction front with
  | nil => rfl
  | cons f front ih =>
    obtain ⟨-, others⟩ := List.forall_mem_cons.mp none
    have next : ∀ next ∈ (front ++ .markup words :: rest).head?, next.isData = false := by
      cases front with
      | nil => exact fun _ same => Option.some.inj same ▸ rfl
      | cons g front => exact fun _ same => Option.some.inj same ▸ others g List.mem_cons_self
    rw [List.cons_append, given, givenBy?_eq_none next, ih others]
    rfl

theorem given_eq_nil {all : List Fragment} (none : ∀ f ∈ all, f.isData = false) : given all = [] := by
  induction all with
  | nil => rfl
  | cons f rest ih =>
    obtain ⟨-, others⟩ := List.forall_mem_cons.mp none
    rw [given, ih others, givenBy?_eq_none fun next first => others next (List.mem_of_mem_head? first)]
    rfl

def Html.fragments (h : Html) : List Fragment :=
  h.nodes.filterMap Html.fragment?

@[simp] theorem fragments_nil : fragments [] = [] := rfl

@[simp] theorem fragments_cons (node : Html) (rest : List Html) :
    fragments (node :: rest) = node.fragments ++ fragments rest :=
  List.filterMap_append ..

@[simp] theorem fragments_append (a b : List Html) :
    fragments (a ++ b) = fragments a ++ fragments b := by
  rw [fragments, Html.allNodes_append, List.filterMap_append]
  rfl

@[simp] theorem fragments_fragment (f : Fragment) : (Html.fragment f).fragments = [f] := rfl

@[simp] theorem fragments_raw (s : String) : (raw s).fragments = [.markup s] := rfl

@[simp] theorem fragments_text (s : String) : (text s).fragments = [.text s] := rfl

@[simp] theorem fragments_line (indent : Nat) : (line indent).fragments =
    [.markup (String.ofList ('\n' :: List.replicate indent ' '))] := rfl

@[simp] theorem fragments_element (name : String) (attributes : List Attribute)
    (children : List Html) : (element name attributes children).fragments = fragments children :=
  rfl

@[simp] theorem fragments_void (name : String) (attributes : List Attribute) :
    (Html.void name attributes).fragments = [] := rfl

/-- No value stands in a tame tree. -/
theorem not_isData_of_areTame (nodes : List Html) (tame : Html.areTame nodes) :
    ∀ f ∈ fragments nodes, f.isData = false := by
  intro f member
  obtain ⟨node, inside, written⟩ := List.mem_filterMap.mp member
  have tame := Html.isTame_of_mem_allNodes nodes tame node inside
  cases node with
  | fragment g =>
    obtain rfl := Option.some.inj written
    cases g with
    | data value => exact Bool.noConfusion tame
    | _ => rfl
  | element name attributes children | void name attributes => cases written

theorem not_isData_head (options : Options) : ∀ f ∈ (head options).fragments, f.isData = false := by
  simp [head, lines]

theorem given_dataScript (report : Report) {front back : List Html}
    (before : ∀ f ∈ fragments front, f.isData = false)
    (behind : ∀ f ∈ fragments back, f.isData = false) :
    given (fragments (front ++ dataScript report :: back)) = [
      ("window.chartData = ", report.trend.toJson),
      ("window.pivotData = ", .array (report.rows.map Row.toJson)),
      ("window.runsData = ", .array (report.runs.map runJson))] := by
  simp only [dataScript, dataLine, fragments_append, fragments_cons, fragments_element,
    fragments_line, fragments_raw, fragments_fragment, fragments_nil, List.cons_append,
    List.nil_append]
  rw [given_append before]
  have closing : given (.markup (String.ofList ('\n' :: List.replicate 4 ' ')) :: fragments back) = [] :=
    given_eq_nil (List.forall_mem_cons.mpr ⟨rfl, behind⟩)
  exact congrArg ([_, _, _] ++ ·) closing

theorem given_document (report : Report) (options : Options) :
    given (fragments (document report options)) = [
      ("window.chartData = ", report.trend.toJson),
      ("window.pivotData = ", .array (report.rows.map Row.toJson)),
      ("window.runsData = ", .array (report.runs.map runJson))] := by
  let front := [raw "<!DOCTYPE html>", line 0, line 0, head options, line 0] ++
    (content report options ++ [line 4])
  let back := [line 4, element "script" [] [raw script], line 0, line 0, line 0]
  have before : ∀ f ∈ fragments front, f.isData = false := by
    have tame := not_isData_of_areTame _ (areTame_content report options)
    have title := not_isData_head options
    simp only [front, fragments_append, fragments_cons, fragments_nil, List.forall_mem_append]
    simpa using ⟨title, tame⟩
  have behind : ∀ f ∈ fragments back, f.isData = false := by simp [back]
  have same : fragments (document report options) = fragments (front ++ dataScript report :: back) := by
    simp [document, body, front, back]
  rw [same, given_dataScript report before behind]

end TestHistory.Page
