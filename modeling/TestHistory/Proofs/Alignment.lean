import TestHistory.Proofs.Escaping
import TestHistory.Proofs.PageMarkup
import TestHistory.Proofs.PageNodes
import TestHistory.Proofs.Pivot

/-!
# The table and the data of the page

The table shows, and its cells open, what stands at the same place in the data that the script is
given. `document_matches` says so for every list of runs with distinct ids.
-/

namespace TestHistory

namespace Json

namespace Tree

/-- The last of several fields with the key counts. -/
def field? (key : String) : Tree → Option Tree
  | object fields => fields.reverse.lookup (some key)
  | _ => none

def text? : Tree → Option String
  | string s => s
  | _ => none

end Tree

namespace Value

theorem lookup_map_tree (fields : List (String × Value)) (key : String) :
    (fields.map (Prod.map some tree)).lookup (some key) = (fields.lookup key).map tree := by
  induction fields with
  | nil => rfl
  | cons field fields ih =>
    obtain ⟨k, value⟩ := field
    rw [List.map_cons, Prod.map, List.lookup_cons, List.lookup_cons, ih, Option.some_beq_some]
    cases key == k <;> rfl

theorem field?_tree (fields : List (String × Value)) (key : String) :
    (object fields).tree.field? key = (fields.reverse.lookup key).map tree := by
  rw [tree, Tree.field?, fieldTrees_eq_map, ← List.map_reverse, lookup_map_tree]

end Value

end Json

namespace Page

open Json (Tree)

/-! ### Reading the page -/

/-- The cells of the head of a table. -/
def columnHeads (table : Html) : List Html :=
  (table.childrenNamed "thead").flatMap fun head =>
    (head.childrenNamed "tr").flatMap (Html.childrenNamed "th")

def bodyRows (table : Html) : List Html :=
  (table.childrenNamed "tbody").flatMap (Html.childrenNamed "tr")

def tables (page : List Html) : List Html :=
  (Html.allNodes page).filter isTable

def cardsOfFlaky (page : List Html) : List Html :=
  (Html.allNodes page).filter isFlakyCard

/-- `pivotData[i].runs[runsData[j].run_id]` -/
def cellData? (pivotData runsData : List Tree) (i j : Nat) : Option Tree := do
  let cells ← (← pivotData[i]?).field? "runs"
  let id ← (← (← runsData[j]?).field? "run_id").text?
  cells.field? id

/-- A cell that opens the details of a result. -/
structure IsResult (cell : Html) (i j : Nat) : Prop where
  className : cell.attribute? "class" = some "result-cell"
  onClick : cell.attribute? "onclick" =
    some ("showTestDetails(" ++ toString i ++ ", " ++ toString j ++ ")")

structure IsAbsent (cell : Html) : Prop where
  className : cell.attribute? "class" = some "absent-cell"
  onClick : cell.attribute? "onclick" = none
  content : cell.content = "-"

/-- The badge of the cell has the state as its class and as its text. -/
def ShowsState (cell : Html) (state : String) : Prop :=
  ∃ badge rest, cell.children = badge :: rest ∧
    badge.attribute? "class" = some ("badge " ++ className state) ∧
    unescape badge.content.toList = state.toList

/-- The cell shows its entry in the data. -/
structure CellMatches (cell : Html) (entry : Tree) (i j : Nat) : Prop where
  isResult_iff : IsResult cell i j ↔ entry ≠ .null
  state : entry ≠ .null →
    ∃ state, (entry.field? "state").bind Tree.text? = some state ∧ ShowsState cell state
  absent : entry = .null → IsAbsent cell

structure RowMatches (row : Html) (pivotData runsData : List Tree) (i : Nat) : Prop where
  place : row.attribute? "data-row" = some (toString i)
  width : (row.childrenNamed "td").length = 2 + runsData.length
  cells : ∀ j < runsData.length, ∃ cell entry, (row.childrenNamed "td")[2 + j]? = some cell ∧
    cellData? pivotData runsData i j = some entry ∧ CellMatches cell entry i j

/-- The page has one table, whose cells match the data, and a card for every flaky row of it. -/
structure Matches (page : List Html) (table : Html) (pivotData runsData : List Tree) : Prop where
  pivotGiven : globalValue? "pivotData" page = some (.array pivotData)
  runsGiven : globalValue? "runsData" page = some (.array runsData)
  onlyTable : tables page = [table]
  heads : (columnHeads table).length = 2 + runsData.length
  height : (bodyRows table).length = pivotData.length
  rows : ∀ i row, (bodyRows table)[i]? = some row → RowMatches row pivotData runsData i
  flaky : ∃ places : List Nat, places.Pairwise (· < ·) ∧
    (∀ i, i ∈ places ↔ (pivotData[i]?).bind (Tree.field? "is_flaky") = some (.bool true)) ∧
    (cardsOfFlaky page).map (Html.attribute? "onclick") =
      places.map fun i => some ("showRowDetails(" ++ toString i ++ ")")

/-! ### The table -/

theorem filter_lines (name : String) (indent : Nat) (nodes : List Html) :
    (lines indent nodes).filter (Html.isNamed name) = nodes.filter (Html.isNamed name) := by
  induction nodes with
  | nil => rfl
  | cons node rest ih =>
    change (line indent :: node :: lines indent rest).filter _ = _
    rw [List.filter_cons_of_neg (by simp [line, Html.isNamed]), List.filter_cons, List.filter_cons,
      ih]

theorem childrenNamed_lines {name : String} {nodes : List Html}
    (all : ∀ node ∈ nodes, node.isNamed name) (tag : String) (attributes : List Attribute)
    (first last : Nat) :
    (element tag attributes (lines first nodes ++ [line last])).childrenNamed name = nodes := by
  change (lines first nodes ++ [line last]).filter (Html.isNamed name) = nodes
  rw [List.filter_append, filter_lines, List.filter_eq_self.mpr all]
  exact List.append_nil nodes

theorem isNamed_headerCells (runs : List Run) : ∀ cell ∈ headerCells runs, cell.isNamed "th" :=
  List.forall_mem_cons.mpr ⟨rfl, List.forall_mem_cons.mpr ⟨rfl,
    List.forall_mem_map.mpr fun _ _ => rfl⟩⟩

theorem isNamed_runCell (row : Nat) (cell : Cell) (run : Nat) :
    (runCell row cell run).isNamed "td" := by
  unfold runCell
  split <;> rfl

theorem isNamed_rowCells (row : Row) (index : Nat) :
    ∀ cell ∈ rowCells row index, cell.isNamed "td" := by
  refine List.forall_mem_cons.mpr ⟨rfl, List.forall_mem_cons.mpr ⟨rfl, ?_⟩⟩
  exact List.forall_mem_map.mpr fun _ _ => isNamed_runCell ..

theorem cells_tableRow (row : Row) (index : Nat) :
    (tableRow row index).childrenNamed "td" = rowCells row index :=
  childrenNamed_lines (isNamed_rowCells row index) ..

theorem childrenNamed_element (name tag : String) (attributes : List Attribute)
    (children : List Html) :
    (element tag attributes children).childrenNamed name = children.filter (Html.isNamed name) :=
  rfl

@[simp] theorem isNamed_element (name tag : String) (attributes : List Attribute)
    (children : List Html) :
    (element tag attributes children).isNamed name = decide (tag = name) := rfl

@[simp] theorem isNamed_line (name : String) (indent : Nat) : (line indent).isNamed name = false :=
  rfl

theorem columnHeads_resultsTable (report : Report) :
    columnHeads (resultsTable report) = headerCells report.runs := by
  have cells := childrenNamed_lines (isNamed_headerCells report.runs) "tr" [] 28 24
  simp [columnHeads, resultsTable, childrenNamed_element "thead", childrenNamed_element "tr", cells]

theorem bodyRows_resultsTable (report : Report) :
    bodyRows (resultsTable report) =
      report.rows.zipIdx.map fun (row, index) => tableRow row index := by
  have all : ∀ row ∈ report.rows.zipIdx.map fun (row, index) => tableRow row index,
      row.isNamed "tr" := List.forall_mem_map.mpr fun _ _ => rfl
  have rows := childrenNamed_lines all "tbody" [] 24 20
  simp [bodyRows, resultsTable, childrenNamed_element "tbody", rows]

theorem filter_landmarks {places : Html → Bool} (among : ∀ h, places h → isLandmark h)
    (page : List Html) : (landmarks page).filter places = (Html.allNodes page).filter places := by
  rw [landmarks, List.filter_filter]
  congr 1
  funext h
  cases found : places h with
  | false => rfl
  | true => rw [among h found, Bool.and_true]

/-- An element has one name. -/
theorem isNamed_other {h : Html} {names : List String} (named : ∃ name ∈ names, h.isNamed name)
    {other : String} (apart : other ∉ names) : h.isNamed other = false := by
  obtain ⟨name, among, named⟩ := named
  cases h with
  | fragment f => rfl
  | element tag _ _ | void tag _ =>
    obtain rfl : tag = name := of_decide_eq_true named
    exact decide_eq_false fun same => apart (same ▸ among)

/-- The parts inside the table are rows and cells. -/
theorem isNamed_tableParts (report : Report) : ∃ inside,
    tableParts report = resultsTable report :: inside ∧
      ∀ part ∈ inside, ∃ name ∈ ["tr", "th", "td"], part.isNamed name := by
  refine ⟨_, rfl, List.forall_mem_cons.mpr ⟨⟨"tr", by decide, rfl⟩, ?_⟩⟩
  refine List.forall_mem_append.mpr ⟨fun cell member =>
    ⟨"th", by decide, isNamed_headerCells _ cell member⟩, fun part member => ?_⟩
  obtain ⟨entry, -, among⟩ := List.mem_flatMap.mp member
  obtain rfl | cell := List.mem_cons.mp among
  · exact ⟨"tr", by decide, rfl⟩
  · exact ⟨"td", by decide, isNamed_rowCells _ _ part cell⟩

theorem not_isTablePart_cards (rows : List Row) :
    ∀ card ∈ (flakyRows rows).map fun (row, index) => flakyCard index row, ¬ isTablePart card :=
  List.forall_mem_map.mpr fun _ _ => Bool.false_ne_true

theorem tables_document (report : Report) (options : Options) :
    tables (document report options) = [resultsTable report] := by
  have part (h : Html) (table : isTable h) : isTablePart h :=
    List.any_eq_true.mpr ⟨"table", by decide, table⟩
  have among (h : Html) (table : isTable h) : isLandmark h := by
    rw [isLandmark, part h table, Bool.true_or]
  have noCard := fun card member => mt (part card) (not_isTablePart_cards report.rows card member)
  obtain ⟨inside, parts, named⟩ := isNamed_tableParts report
  have noPart : ∀ part ∈ inside, ¬ isTable part := fun part member =>
    Bool.eq_false_iff.mp (isNamed_other (named part member) (by decide))
  rw [tables, ← filter_landmarks among, landmarks_document, landmarks_content, parts,
    List.filter_append, List.filter_eq_nil_iff.mpr noCard, List.filter_cons_of_pos rfl,
    List.filter_eq_nil_iff.mpr noPart, List.nil_append]

theorem isFlakyCard_flakyCard (index : Nat) (row : Row) : isFlakyCard (flakyCard index row) := by
  simp [isFlakyCard, flakyCard, Html.isNamed, Html.attribute?, Html.attributes, written?, element]

theorem cardsOfFlaky_document (report : Report) (options : Options) :
    cardsOfFlaky (document report options) =
      (flakyRows report.rows).map fun (row, index) => flakyCard index row := by
  have among (h : Html) (card : isFlakyCard h) : isLandmark h := by
    rw [isLandmark, card, Bool.or_true]
  have cards := List.filter_eq_self.mpr (List.forall_mem_map.mpr fun (entry : Row × Nat)
    (_ : entry ∈ flakyRows report.rows) => isFlakyCard_flakyCard entry.2 entry.1)
  obtain ⟨inside, parts, named⟩ := isNamed_tableParts report
  have noPart : ∀ part ∈ inside, ¬ isFlakyCard part := by
    intro part member
    rw [isFlakyCard, isNamed_other (named part member) (by decide)]
    exact Bool.false_ne_true
  rw [cardsOfFlaky, ← filter_landmarks among, landmarks_document, landmarks_content, parts,
    List.filter_append, cards, List.filter_cons_of_neg Bool.false_ne_true,
    List.filter_eq_nil_iff.mpr noPart, List.append_nil]

/-! #### What fragments write -/

theorem ofList_markup (s : String) : String.ofList (Fragment.markup s).chars = s :=
  String.ofList_toList

theorem ofList_number (n : Nat) : String.ofList (Fragment.figure (.ofNat n)).chars = toString n :=
  String.ofList_toList

theorem ofList_className (s : String) :
    String.ofList (Fragment.className s).chars = className s :=
  String.ofList_toList

attribute [local simp] String.ofList_append String.append_assoc

theorem ofList_single (n : Nat) :
    String.ofList ([.figure (.ofNat n)].flatMap Fragment.chars) = toString n := by
  rw [List.flatMap_singleton, ofList_number]

theorem ofList_call (front : String) (n : Nat) (back : String) :
    String.ofList ([.markup front, .figure (.ofNat n), .markup back].flatMap Fragment.chars) =
      front ++ toString n ++ back := by
  simp [ofList_markup, ofList_number]

theorem ofList_call_pair (front : String) (m : Nat) (between : String) (n : Nat) (back : String) :
    String.ofList ([.markup front, .figure (.ofNat m), .markup between, .figure (.ofNat n),
      .markup back].flatMap Fragment.chars) =
      front ++ toString m ++ between ++ toString n ++ back := by
  simp [ofList_markup, ofList_number]

theorem ofList_class (front s : String) :
    String.ofList ([.markup front, .className s].flatMap Fragment.chars) =
      front ++ className s := by
  simp [ofList_markup, ofList_className]

theorem onClick_flakyCard (index : Nat) (row : Row) :
    (flakyCard index row).attribute? "onclick" =
      some ("showRowDetails(" ++ toString index ++ ")") :=
  congrArg some (ofList_call "showRowDetails(" index ")")

/-! ### The data -/

def rowTrees (rows : List Row) : List Tree :=
  rows.map fun row => row.toJson.tree

def runTrees (runs : List Run) : List Tree :=
  runs.map fun run => (runJson run).tree

theorem length_rowTrees (rows : List Row) : (rowTrees rows).length = rows.length :=
  List.length_map _

theorem length_runTrees (runs : List Run) : (runTrees runs).length = runs.length :=
  List.length_map _

theorem tree_array {α : Type} (write : α → Json.Value) (l : List α) :
    (Json.Value.array (l.map write)).tree = .array (l.map fun a => (write a).tree) := by
  rw [Json.Value.tree, Json.Value.itemTrees_eq_map, List.map_map]
  rfl

theorem pivotData_document (report : Report) (options : Options) :
    globalValue? "pivotData" (document report options) = some (.array (rowTrees report.rows)) := by
  have words : "window." ++ "pivotData" ++ " = " = "window.pivotData = " := rfl
  rw [globalValue?, given_document, words, Keyed.lookup_cons_other (by decide),
    List.lookup_cons_self, Option.bind_some, parse?_scriptJson, tree_array, rowTrees]

theorem runsData_document (report : Report) (options : Options) :
    globalValue? "runsData" (document report options) = some (.array (runTrees report.runs)) := by
  have words : "window." ++ "runsData" ++ " = " = "window.runsData = " := rfl
  rw [globalValue?, given_document, words, Keyed.lookup_cons_other (by decide),
    Keyed.lookup_cons_other (by decide), List.lookup_cons_self, Option.bind_some,
    parse?_scriptJson, tree_array, runTrees]

theorem runId_runJson (run : Run) :
    ((runJson run).tree.field? "run_id").bind Tree.text? = some run.id := by
  rw [runJson, Json.Value.field?_tree]
  simp [List.lookup_cons, Json.Value.tree, Tree.text?]

theorem isFlaky_toJson (row : Row) :
    row.toJson.tree.field? "is_flaky" = some (.bool row.isFlaky) := by
  rw [Row.toJson, Json.Value.field?_tree]
  simp [List.lookup_cons, Json.Value.tree]

theorem runs_toJson (row : Row) :
    row.toJson.tree.field? "runs" =
      some (Json.Value.object (row.cells.map Row.cellField)).tree := by
  rw [Row.toJson, Json.Value.field?_tree]
  simp [List.lookup_cons]

theorem state_recordJson (t : TestRecord) :
    ((Row.recordJson t).tree.field? "state").bind Tree.text? = some t.state.name := by
  rw [Row.recordJson, Json.Value.field?_tree]
  simp [List.lookup_cons, TestState.toJson, Json.Value.tree, Tree.text?]

/-! ### Cells -/

theorem onClick_resultCell (i j : Nat) (t : TestRecord) :
    (resultCell i j t).attribute? "onclick" =
      some ("showTestDetails(" ++ toString i ++ ", " ++ toString j ++ ")") :=
  congrArg some (ofList_call_pair "showTestDetails(" i ", " j ")")

theorem content_text (name : String) (attributes : List Attribute) (s : String) :
    (element name attributes [text s]).content = escape s := by
  change String.ofList ((escape s).toList ++ []) = escape s
  rw [List.append_nil, String.ofList_toList]

theorem showsState_resultCell (i j : Nat) (t : TestRecord) :
    ShowsState (resultCell i j t) t.state.name := by
  refine ⟨_, _, rfl, ?_, ?_⟩
  · exact congrArg some (ofList_class "badge " t.state.name)
  · rw [content_text, unescape_escape]

theorem isAbsent_absentCell : IsAbsent absentCell where
  className := rfl
  onClick := rfl
  content := rfl

theorem isResult_resultCell (i j : Nat) (t : TestRecord) : IsResult (resultCell i j t) i j where
  className := rfl
  onClick := onClick_resultCell i j t

theorem not_isResult_absentCell (i j : Nat) : ¬ IsResult absentCell i j := fun result =>
  nomatch isAbsent_absentCell.onClick.symm.trans result.onClick

theorem cellMatches_absentCell (i j : Nat) : CellMatches absentCell .null i j where
  isResult_iff := iff_of_false (not_isResult_absentCell i j) fun present => present rfl
  state present := absurd rfl present
  absent _ := isAbsent_absentCell

theorem recordJson_ne_null (t : TestRecord) : (Row.recordJson t).tree ≠ .null := nofun

theorem cellMatches_resultCell (i j : Nat) (t : TestRecord) :
    CellMatches (resultCell i j t) (Row.recordJson t).tree i j where
  isResult_iff := iff_of_true (isResult_resultCell i j t) (recordJson_ne_null t)
  state _ := ⟨t.state.name, state_recordJson t, showsState_resultCell i j t⟩
  absent none := absurd none (recordJson_ne_null t)

theorem cellMatches_runCell (i j : Nat) (cell : Cell) :
    CellMatches (runCell i cell j) (Json.ofOption Row.recordJson cell.record).tree i j := by
  unfold runCell
  split
  next t found =>
    rw [found]
    exact cellMatches_resultCell i j t
  next found =>
    rw [found]
    exact cellMatches_absentCell i j

/-! ### Rows -/

theorem lookup_cells {runs : List Run} (distinct : (runs.map Run.id).Nodup) (name : String)
    {run : Run} (member : run ∈ runs) :
    ((runs.map (Pivot.cell name)).map Row.cellField).reverse.lookup run.id =
      some (Json.ofOption Row.recordJson (Pivot.cell name run).record) := by
  have ids : ((runs.map (Pivot.cell name)).map Row.cellField).map Prod.fst = runs.map Run.id := by
    rw [List.map_map, List.map_map]
    rfl
  -- Of two fields with one key the last would count, but ids are distinct.
  have single := Keyed.single_of_nodup (ids ▸ distinct)
  rw [single.lookup_eq fun _ => List.mem_reverse, ← single.mem_iff_lookup]
  exact List.mem_map_of_mem (List.mem_map_of_mem member)

theorem cellData?_eq {rows : List Row} {runs : List Run} {i j : Nat} {row : Row} {run : Run}
    (foundRow : rows[i]? = some row) (foundRun : runs[j]? = some run) :
    cellData? (rowTrees rows) (runTrees runs) i j =
      ((row.cells.map Row.cellField).reverse.lookup run.id).map Json.Value.tree := by
  obtain ⟨field, read, text⟩ := Option.bind_eq_some_iff.mp (runId_runJson run)
  rw [cellData?, rowTrees, runTrees, List.getElem?_map, List.getElem?_map, foundRow, foundRun]
  simp only [Option.map_some, Option.bind_eq_bind, Option.bind_some, runs_toJson, read, text,
    Json.Value.field?_tree]

theorem cellData?_pivot {runs : List Run} (distinct : (runs.map Run.id).Nodup) {i j : Nat}
    {row : Row} (foundRow : (pivot runs)[i]? = some row) (inside : j < runs.length) :
    ∃ cell, row.cells[j]? = some cell ∧
      cellData? (rowTrees (pivot runs)) (runTrees runs) i j =
        some (Json.ofOption Row.recordJson cell.record).tree := by
  obtain ⟨name, -, rfl⟩ := mem_pivot.mp (List.mem_of_getElem? foundRow)
  have foundRun := List.getElem?_eq_getElem inside
  refine ⟨Pivot.cell name runs[j], ?_, ?_⟩
  · rw [Pivot.row_cells, List.getElem?_map, foundRun, Option.map_some]
  · rw [cellData?_eq foundRow foundRun, Pivot.row_cells,
      lookup_cells distinct name (List.getElem_mem inside), Option.map_some]

theorem getElem?_rowCells {row : Row} {j : Nat} {cell : Cell} (found : row.cells[j]? = some cell)
    (i : Nat) : (rowCells row i)[2 + j]? = some (runCell i cell j) := by
  rw [rowCells, List.getElem?_append_right (Nat.le_add_right 2 j)]
  simp [found]

theorem place_tableRow (row : Row) (i : Nat) :
    (tableRow row i).attribute? "data-row" = some (toString i) :=
  congrArg some (ofList_single i)

theorem rowMatches_tableRow {runs : List Run} (distinct : (runs.map Run.id).Nodup) {i : Nat}
    {row : Row} (found : (pivot runs)[i]? = some row) :
    RowMatches (tableRow row i) (rowTrees (pivot runs)) (runTrees runs) i where
  place := place_tableRow row i
  width := by
    obtain ⟨name, -, rfl⟩ := mem_pivot.mp (List.mem_of_getElem? found)
    rw [cells_tableRow, rowCells, List.length_append, List.length_map, List.length_zipIdx,
      Pivot.row_cells, List.length_map, length_runTrees]
    rfl
  cells j inside := by
    obtain ⟨cell, foundCell, given⟩ :=
      cellData?_pivot distinct found (length_runTrees runs ▸ inside)
    refine ⟨runCell i cell j, _, ?_, given, cellMatches_runCell i j cell⟩
    rw [cells_tableRow, getElem?_rowCells foundCell]

/-! ### Flaky rows -/

theorem sorted_flakyRows (rows : List Row) :
    ((flakyRows rows).map Prod.snd).Pairwise (· < ·) := by
  have all : (rows.zipIdx.map Prod.snd).Pairwise (· < ·) := by
    rw [List.zipIdx_map_snd]
    exact List.pairwise_lt_range'
  exact all.sublist (List.filter_sublist.map Prod.snd)

theorem mem_flakyRows {rows : List Row} {i : Nat} :
    i ∈ (flakyRows rows).map Prod.snd ↔
      ((rowTrees rows)[i]?).bind (Tree.field? "is_flaky") = some (.bool true) := by
  have entry (row : Row) : (row, i) ∈ flakyRows rows ↔ rows[i]? = some row ∧ row.isFlaky := by
    rw [flakyRows, List.mem_filter, List.mk_mem_zipIdx_iff_getElem?]
  rw [rowTrees, List.getElem?_map]
  constructor
  · intro member
    obtain ⟨⟨row, k⟩, among, rfl⟩ := List.mem_map.mp member
    obtain ⟨found, flaky⟩ := (entry row).mp among
    rw [found, Option.map_some, Option.bind_some, isFlaky_toJson, flaky]
  · intro given
    obtain ⟨tree, foundTree, flaky⟩ := Option.bind_eq_some_iff.mp given
    obtain ⟨row, found, rfl⟩ := Option.map_eq_some_iff.mp foundTree
    rw [isFlaky_toJson] at flaky
    have flaky : row.isFlaky = true := by simpa using flaky
    exact List.mem_map.mpr ⟨(row, i), (entry row).mpr ⟨found, flaky⟩, rfl⟩

/-! ### The page -/

theorem length_columnHeads (report : Report) :
    (columnHeads (resultsTable report)).length = 2 + report.runs.length := by
  rw [columnHeads_resultsTable, headerCells, List.length_append, List.length_map,
    List.length_zipIdx]
  rfl

theorem length_bodyRows (report : Report) :
    (bodyRows (resultsTable report)).length = report.rows.length := by
  rw [bodyRows_resultsTable, List.length_map, List.length_zipIdx]

theorem getElem?_bodyRows (report : Report) (i : Nat) :
    (bodyRows (resultsTable report))[i]? = report.rows[i]?.map fun row => tableRow row i := by
  rw [bodyRows_resultsTable, List.getElem?_map, List.getElem?_zipIdx, Option.map_map, Nat.zero_add]
  rfl

theorem onClick_cardsOfFlaky (report : Report) (options : Options) :
    (cardsOfFlaky (document report options)).map (Html.attribute? "onclick") =
      ((flakyRows report.rows).map Prod.snd).map fun i =>
        some ("showRowDetails(" ++ toString i ++ ")") := by
  rw [cardsOfFlaky_document, List.map_map, List.map_map]
  exact List.map_congr_left fun entry _ => onClick_flakyCard entry.2 entry.1

theorem matches_resultsTable {runs : List Run} (distinct : (runs.map Run.id).Nodup)
    (options : Options) :
    Matches (document (Report.ofRuns runs) options) (resultsTable (Report.ofRuns runs))
      (rowTrees (pivot runs)) (runTrees runs) where
  pivotGiven := pivotData_document ..
  runsGiven := runsData_document ..
  onlyTable := tables_document ..
  heads := by
    rw [length_columnHeads, length_runTrees]
    rfl
  height := by
    rw [length_bodyRows, length_rowTrees]
    rfl
  rows i row found := by
    rw [getElem?_bodyRows] at found
    obtain ⟨row, foundRow, rfl⟩ := Option.map_eq_some_iff.mp found
    exact rowMatches_tableRow distinct foundRow
  flaky := ⟨(flakyRows (pivot runs)).map Prod.snd, sorted_flakyRows _, fun _ => mem_flakyRows,
    onClick_cardsOfFlaky ..⟩

/-- The data has a row for every row of the pivot and an entry for every run, and the page shows
the data. -/
theorem document_matches {runs : List Run} (distinct : (runs.map Run.id).Nodup)
    (options : Options) : ∃ table pivotData runsData, pivotData.length = (pivot runs).length ∧
      runsData.length = runs.length ∧
        Matches (document (Report.ofRuns runs) options) table pivotData runsData :=
  ⟨_, _, _, length_rowTrees _, length_runTrees _, matches_resultsTable distinct options⟩

namespace Worded

/-- A flaky test with a result in two of three runs, and a test with a result in one. -/
def runs : List Run := [
  { run "third" with tests := [] },
  { run "second" with tests := [record .failed "checkout", record (.other "<skipped>") "login"] },
  { run "first" with tests := [record .passed "checkout"] }]

end Worded

theorem document_matches_worded : (Worded.runs.map Run.id).Nodup ∧
    ∃ table pivotData runsData, pivotData.length = (pivot Worded.runs).length ∧
      runsData.length = 3 ∧
        Matches (document (Report.ofRuns Worded.runs) (Worded.options "checkout")) table pivotData
          runsData := by
  have distinct : (Worded.runs.map Run.id).Nodup := by decide
  exact ⟨distinct, document_matches distinct (Worded.options "checkout")⟩

end Page

end TestHistory
