import TestHistory.Proofs.Alignment

/-!
# The table in the text of the page

`begun` reads the tags that begin an element off a text alone. From the text of a tame tree it reads
the tags of the tree, in page order, whatever stands in the slots. So the one table of the tree is
the one table of the written page, and so are its rows and their cells (`Matches.written`).
-/

namespace TestHistory.Page

open Html

/-! ### Reading tags -/

/-- What stands between `<` and `>`, tag by tag. -/
def tagsOf : List Char → List (List Char)
  | [] => []
  | c :: text => if c = '<' then text.takeWhile (· ≠ '>') :: tagsOf text else tagsOf text

def endsElement (tag : List Char) : Bool :=
  tag.head? = some '/'

/-- The tags that begin an element. -/
def begun (text : List Char) : List (List Char) :=
  (tagsOf text).filter (!endsElement ·)

def tagName (tag : List Char) : String :=
  String.ofList (tag.takeWhile (· ≠ ' '))

/-- The tags for tables, their rows and cells. -/
def tableTags (text : List Char) : List (List Char) :=
  (begun text).filter fun tag => tagName tag ∈ tablePartNames

theorem tagsOf_of_plain {text : List Char} (plain : isPlain text) (more : List Char) :
    tagsOf (text ++ more) = tagsOf more := by
  induction text with
  | nil => rfl
  | cons c text ih =>
    rw [isPlain, List.all_cons, Bool.and_eq_true] at plain
    rw [List.cons_append, tagsOf, if_neg (ne_less_of_not_isAngle plain.1), ih plain.2]

theorem tagsOf_less {inside : List Char} (plain : isPlain inside) (more : List Char) :
    tagsOf ('<' :: (inside ++ '>' :: more)) = inside :: tagsOf more := by
  have upToEnd : (inside ++ '>' :: more).takeWhile (· ≠ '>') = inside := by
    have before : ∀ c ∈ inside, decide (c ≠ '>') = true := by
      intro c member
      refine decide_eq_true ?_
      rintro rfl
      exact Bool.noConfusion (List.all_eq_true.mp plain '>' member)
    rw [List.takeWhile_append_of_pos before, List.takeWhile_cons_of_neg (by simp), List.append_nil]
  rw [tagsOf, if_pos rfl, upToEnd, tagsOf_of_plain plain, tagsOf, if_neg (by decide)]

theorem begun_of_plain {text : List Char} (plain : isPlain text) (more : List Char) :
    begun (text ++ more) = begun more := by
  rw [begun, tagsOf_of_plain plain, begun]

/-! ### Tags of a tree -/

/-- The tag that begins an element. -/
def Html.begins? : Html → Option (List Char)
  | .fragment _ => none
  | .element name attributes _ | .void name attributes => some (inside name attributes)

theorem begun_tag {name : String} {attributes : List Attribute} (isName : isTagName name)
    (tame : attributes.all Attribute.isTame) (more : List Char) :
    begun (tag name attributes ++ more) = inside name attributes :: begun more := by
  have begins : endsElement (inside name attributes) = false := by
    have first := ((Bool.and_eq_true _ _).mp isName).2
    rw [endsElement, inside]
    cases chars : name.toList with
    | nil => simp [chars] at first
    | cons c rest => simpa [chars] using first
  rw [tag_eq_inside, List.cons_append, List.append_assoc, List.singleton_append, begun,
    tagsOf_less (isPlain_inside isName tame), List.filter_cons_of_pos (by rw [begins]; rfl), begun]

theorem begun_endTag {name : String} (isName : isTagName name) (more : List Char) :
    begun (endTag name ++ more) = begun more := by
  have plain : isPlain ('/' :: name.toList) := isPlain_of_isTagName isName
  rw [endTag, List.cons_append, List.cons_append, List.append_assoc, List.singleton_append, begun,
    ← List.cons_append, tagsOf_less plain, List.filter_cons_of_neg (by simp [endsElement]), begun]

mutual

/-- The text of a tame tree begins the elements of the tree. -/
theorem begun_chars (h : Html) (tame : h.isTame) (more : List Char) :
    begun (h.chars ++ more) = h.nodes.filterMap Html.begins? ++ begun more := by
  match h with
  | .fragment f => exact begun_of_plain (isPlain_fragment tame) more
  | .element name attributes children =>
    simp only [isTame, Bool.and_eq_true] at tame
    obtain ⟨⟨⟨isName, -⟩, attributesTame⟩, childrenTame⟩ := tame
    -- The ending tag begins nothing, so the order is that of the nodes.
    have all := begun_listChars children childrenTame (endTag name ++ more)
    rw [begun_endTag isName] at all
    change begun (tag name attributes ++ (listChars children ++ endTag name) ++ more) = _
    rw [List.append_assoc, List.append_assoc, begun_tag isName attributesTame, all]
    rfl
  | .void name attributes =>
    simp only [isTame, Bool.and_eq_true] at tame
    exact begun_tag tame.1 tame.2 more

theorem begun_listChars (nodes : List Html) (tame : areTame nodes) (more : List Char) :
    begun (listChars nodes ++ more) = (allNodes nodes).filterMap Html.begins? ++ begun more := by
  match nodes with
  | [] => rfl
  | node :: nodes =>
    rw [areTame, Bool.and_eq_true] at tame
    rw [listChars, List.append_assoc, begun_chars node tame.1, begun_listChars nodes tame.2,
      allNodes, List.filterMap_append, List.append_assoc]

end

/-- The name ends at the first blank, which begins an attribute. -/
theorem tagName_inside {name : String} (isName : isTagName name) (attributes : List Attribute) :
    tagName (inside name attributes) = name := by
  have noBlank : ∀ c ∈ name.toList, decide (c ≠ ' ') = true := fun c member =>
    ((Bool.and_eq_true _ _).mp (List.all_eq_true.mp ((Bool.and_eq_true _ _).mp isName).1 c member)).2
  have none : (attributes.flatMap Attribute.chars).takeWhile (· ≠ ' ') = [] := by
    cases attributes with
    | nil => rfl
    | cons a rest => exact List.takeWhile_cons_of_neg (by simp)
  rw [tagName, inside, List.takeWhile_append_of_pos noBlank, none, List.append_nil,
    String.ofList_toList]

/-- A node counts as a part of a table for the reader of the text if it is one in the tree. -/
theorem tableTag_begins? {node : Html} (tame : node.isTame) :
    node.begins?.filter (fun tag => tagName tag ∈ tablePartNames) =
      if isTablePart node then node.begins? else none := by
  cases node with
  | fragment f => cases isTablePart (.fragment f) <;> rfl
  | element name attributes children =>
    simp only [isTame, Bool.and_eq_true] at tame
    obtain ⟨⟨⟨isName, -⟩, -⟩, -⟩ := tame
    simp [begins?, Option.filter_some, tagName_inside isName, isTablePart, isNamed]
  | void name attributes =>
    simp only [isTame, Bool.and_eq_true] at tame
    simp [begins?, Option.filter_some, tagName_inside tame.1, isTablePart, isNamed]

theorem tableTags_listChars {nodes : List Html} (tame : areTame nodes) :
    tableTags (listChars nodes) = ((allNodes nodes).filter isTablePart).filterMap Html.begins? := by
  have tags := begun_listChars nodes tame []
  rw [List.append_nil] at tags
  rw [tableTags, tags, begun, tagsOf, List.filter_nil, List.append_nil, List.filter_filterMap,
    List.filterMap_filter]
  exact List.filterMap_congr fun node member =>
    tableTag_begins? (isTame_of_mem_allNodes nodes tame node member)

mutual

/-- A node is written inside the text of its tree. -/
theorem infix_chars (h : Html) : ∀ node ∈ h.nodes, node.chars <:+: h.chars := by
  match h with
  | .fragment f => exact List.forall_mem_singleton.mpr (List.infix_refl _)
  | .element name attributes children =>
    refine List.forall_mem_cons.mpr ⟨List.infix_refl _, fun node member => ?_⟩
    exact (infix_listChars children node member).trans
      ⟨tag name attributes, endTag name, List.append_assoc ..⟩
  | .void name attributes => exact List.forall_mem_singleton.mpr (List.infix_refl _)

theorem infix_listChars (nodes : List Html) :
    ∀ node ∈ allNodes nodes, node.chars <:+: listChars nodes := by
  match nodes with
  | [] => exact List.forall_mem_nil _
  | first :: rest =>
    exact List.forall_mem_append.mpr
      ⟨fun node member => (infix_chars first node member).trans (List.prefix_append _ _).isInfix,
        fun node member => (infix_listChars rest node member).trans (List.suffix_append _ _).isInfix⟩

end

/-! ### The table of the page -/

def headRows (table : Html) : List Html :=
  (table.childrenNamed "thead").flatMap (Html.childrenNamed "tr")

def withCells (name : String) (row : Html) : List Html :=
  row :: row.childrenNamed name

/-- A table, the rows of its head and the rows of its body, each before its cells. -/
def partsOf (table : Html) : List Html :=
  table :: ((headRows table).flatMap (withCells "th") ++ (bodyRows table).flatMap (withCells "td"))

theorem headRows_resultsTable (report : Report) :
    headRows (resultsTable report) = [headRow report.runs] := by
  simp [headRows, resultsTable, headRow, childrenNamed_element "thead", childrenNamed_element "tr"]

theorem withCells_headRow (runs : List Run) :
    withCells "th" (headRow runs) = headRow runs :: headerCells runs :=
  congrArg (headRow runs :: ·) (childrenNamed_lines (isNamed_headerCells runs) "tr" [] 28 24)

theorem withCells_tableRow (entry : Row × Nat) :
    withCells "td" (tableRow entry.1 entry.2) = rowParts entry :=
  congrArg (tableRow entry.1 entry.2 :: ·) (cells_tableRow ..)

theorem partsOf_resultsTable (report : Report) :
    partsOf (resultsTable report) = tableParts report := by
  have rows := List.flatMap_congr fun entry (_ : entry ∈ report.rows.zipIdx) =>
    withCells_tableRow entry
  rw [partsOf, headRows_resultsTable, bodyRows_resultsTable, List.flatMap_singleton,
    withCells_headRow, List.flatMap_map, rows]
  rfl

theorem isTablePart_of_mem (report : Report) : ∀ part ∈ tableParts report, isTablePart part := by
  obtain ⟨inside, parts, named⟩ := isNamed_tableParts report
  rw [parts]
  refine List.forall_mem_cons.mpr ⟨rfl, fun part member => ?_⟩
  obtain ⟨name, among, is⟩ := named part member
  exact List.any_eq_true.mpr ⟨name, List.mem_cons_of_mem "table" among, is⟩

theorem tableParts_content (report : Report) (options : Options) :
    (allNodes (content report options)).filter isTablePart = tableParts report := by
  have among (h : Html) (part : isTablePart h) : isLandmark h := by
    rw [isLandmark, part, Bool.true_or]
  rw [← filter_landmarks among, landmarks_content, List.filter_append,
    List.filter_eq_nil_iff.mpr (not_isTablePart_cards report.rows),
    List.filter_eq_self.mpr (isTablePart_of_mem report), List.nil_append]

/-- The table is written in a text, and the text has no other table, row or cell. -/
structure Written (table : Html) (text : List Char) : Prop where
  tags : tableTags text = (partsOf table).filterMap Html.begins?
  parts : ∀ part ∈ partsOf table, part.chars <:+: text

theorem written_content (report : Report) (options : Options) :
    Written (resultsTable report) (listChars (content report options)) where
  tags := by
    rw [tableTags_listChars (areTame_content report options), tableParts_content,
      partsOf_resultsTable]
  parts part member := by
    rw [partsOf_resultsTable, ← tableParts_content report options] at member
    exact infix_listChars _ part (List.mem_filter.mp member).1

/-- The page up to the content of its body. -/
def beforeContent (options : Options) : List Char :=
  tag "!DOCTYPE html" [] ++ ((line 0).chars ++ (tag "html" [attr "lang" "en"] ++
    (listChars [line 0, head options, line 0] ++ tag "body" [])))

theorem render_content (report : Report) (options : Options) :
    (render report options).toList = beforeContent options ++ (listChars (content report options) ++
      (listChars [line 4, dataScript report] ++ closing)) := by
  simp only [render_toList, opening, beforeContent, listChars_append, listChars,
    List.append_assoc, List.append_nil]

/-- The table that shows the data is the one that is written between the head of the page and its
scripts. -/
theorem Matches.written {report : Report} {options : Options} {table : Html}
    {pivotData runsData : List Json.Tree}
    (shown : Matches (document report options) table pivotData runsData) :
    ∃ text, (render report options).toList = beforeContent options ++
        (text ++ (listChars [line 4, dataScript report] ++ closing)) ∧ Written table text := by
  have only := shown.onlyTable
  rw [tables_document] at only
  obtain rfl := List.singleton_inj.mp only
  exact ⟨_, render_content report options, written_content report options⟩

end TestHistory.Page
