import TestHistory.Proofs.ReportMarkup

/-!
# Reports cannot add markup

The page is an opening, the script with the data, and a closing. `render_sameMarkup` concludes that
no text of a report and nothing of the options changes the tags of the page, its quotes before the
data, or the number of its scripts.
-/

namespace TestHistory.Page

open Html

/-! ### The parts of the page -/

/-- The page up to the script with the data. -/
def opening (report : Report) (options : Options) : List Char :=
  tag "!DOCTYPE html" [] ++ ((line 0).chars ++ (tag "html" [attr "lang" "en"] ++
    (listChars [line 0, head options, line 0] ++
      (tag "body" [] ++ listChars (content report options ++ [line 4])))))

def endTag (name : String) : List Char :=
  '<' :: '/' :: (name.toList ++ ['>'])

/-- The page after the script with the data. -/
def closing : List Char :=
  listChars [line 4, element "script" [] [raw script], line 0] ++
    (endTag "body" ++ ((line 0).chars ++ (endTag "html" ++ (line 0).chars)))

theorem chars_element (name : String) (attributes : List Attribute) (children : List Html) :
    (Page.element name attributes children).chars =
      tag name attributes ++ (listChars children ++ endTag name) := rfl

theorem listChars_append (a b : List Html) : listChars (a ++ b) = listChars a ++ listChars b := by
  induction a with
  | nil => rfl
  | cons node nodes ih => rw [List.cons_append, listChars, listChars, ih, List.append_assoc]

theorem render_toList (report : Report) (options : Options) :
    (render report options).toList =
      opening report options ++ ((dataScript report).chars ++ closing) := by
  have doctype : (raw "<!DOCTYPE html>").chars = tag "!DOCTYPE html" [] := by decide
  rw [render, Html.render, String.toList_ofList]
  simp only [document, body, opening, closing, listChars_append, listChars, chars_element, doctype,
    List.append_assoc, List.append_nil]

/-! ### Lines of style and script -/

theorem scriptEnds_joinLines {lines : List String}
    (none : ∀ line ∈ lines, scriptEnds line.toList = 0) (more : List Char) :
    scriptEnds ((joinLines lines).toList ++ more) = scriptEnds more := by
  have chars : (joinLines lines).toList =
      '\n' :: (['\n'].intercalate (lines.map String.toList) ++ ['\n']) := by
    simp [joinLines, String.toList_intercalate]
  have each : ∀ line ∈ lines.map String.toList, scriptEnds line = 0 := by
    simpa using none
  rw [chars, List.cons_append, List.append_assoc, List.singleton_append,
    scriptEnds_cons_of_ne (by decide), scriptEnds_intercalate each]

set_option maxRecDepth 8000 in
theorem scriptEnds_style (more : List Char) :
    scriptEnds (style.toList ++ more) = scriptEnds more := by
  refine scriptEnds_joinLines ?_ more
  simp only [List.forall_mem_append, Style.Frame.lines, Style.Matrix.lines, Style.Details.lines,
    Style.Log.lines, Style.Profiles.lines, and_assoc]
  refine ⟨?_, ?_, ?_, ?_, ?_⟩
  all_goals
    apply scriptEnds_of_spelled
    · repeat' first | exact Spelled.nil | apply Spelled.cons rfl
    · decide +kernel

set_option maxRecDepth 8000 in
theorem scriptEnds_script_text (more : List Char) :
    scriptEnds (script.toList ++ more) = scriptEnds more := by
  refine scriptEnds_joinLines ?_ more
  simp only [List.forall_mem_append, Script.Shell.lines, Script.Matrix.lines, Script.Log.lines,
    Script.LogSearch.lines, Script.LogTools.lines, Script.Profiles.lines, Script.Modals.lines,
    Script.Comparison.lines, and_assoc]
  refine ⟨?_, ?_, ?_, ?_, ?_, ?_, ?_, ?_⟩
  all_goals
    apply scriptEnds_of_spelled
    · repeat' first | exact Spelled.nil | apply Spelled.cons rfl
    · decide +kernel

/-! ### Delimiters -/

theorem delimiters_congr {h k : Html} (first : h.isTame) (second : k.isTame)
    (same : h.template = k.template) : delimiters h.chars = delimiters k.chars := by
  rw [delimiters_template h first, same, ← delimiters_template k second]

theorem isTame_title (options : Options) : (element "title" [] [text options.title]).isTame := by
  simp [isTagName, isNameChar, isScriptName, isAngle, List.isPrefixOf]

theorem isTame_source (options : Options) :
    [attrOf "src" [.text options.chartJsUrl]].all Attribute.isTame := by
  simp [Fragment.isTame, isPlain, isAngle]

theorem listChars_lines_cons (indent : Nat) (node : Html) (nodes : List Html) :
    listChars (lines indent (node :: nodes)) =
      (line indent).chars ++ (node.chars ++ listChars (lines indent nodes)) := rfl

theorem delimiters_head (o p : Options) : delimiters (head o).chars = delimiters (head p).chars := by
  have title : delimiters (element "title" [] [text o.title]).chars =
      delimiters (element "title" [] [text p.title]).chars :=
    delimiters_congr (isTame_title o) (isTame_title p) (by simp)
  have library : delimiters (tag "script" [attrOf "src" [.text o.chartJsUrl]]) =
      delimiters (tag "script" [attrOf "src" [.text p.chartJsUrl]]) := by
    rw [delimiters_tag "script" (isTame_source o), delimiters_tag "script" (isTame_source p)]
    simp [Fragment.template]
  simp only [head, chars_element "head", chars_element "script", listChars_append,
    listChars_lines_cons, delimiters_append, title, library]

theorem delimiters_content {a b : Report} (same : a.shape = b.shape) (o p : Options) :
    delimiters (listChars (content a o)) = delimiters (listChars (content b p)) := by
  rw [delimiters_templates _ (areTame_content a o), templates_content same o p,
    ← delimiters_templates _ (areTame_content b p)]

theorem delimiters_opening {a b : Report} (same : a.shape = b.shape) (o p : Options) :
    delimiters (opening a o) = delimiters (opening b p) := by
  simp only [opening, delimiters_append, listChars_append, listChars, delimiters_head o p,
    delimiters_content same o p]

/-! ### The data -/

theorem angles_dataLine {name : String} (plain : angles name.toList = []) (v : Json.Value) :
    angles (listChars (dataLine name v)) = [] := by
  have blanks : angles (line 8).chars = [] := by decide
  have window : angles (raw ("window." ++ name ++ " = ")).chars = [] := by
    change angles ("window." ++ name ++ " = ").toList = []
    rw [String.toList_append, String.toList_append, angles_append, angles_append, plain]
    rfl
  have data : angles (fragment (.data v)).chars = [] := angles_scriptJson v
  have semicolon : angles (raw ";").chars = [] := by decide
  simp only [dataLine, listChars, angles_append, blanks, window, data, semicolon]
  rfl

/-- The lines of the script with the data. -/
def dataLines (report : Report) : List Html :=
  dataLine "chartData" report.trend.toJson ++
    dataLine "pivotData" (.array (report.rows.map Row.toJson)) ++
    dataLine "runsData" (.array (report.runs.map runJson)) ++
    [line 4]

theorem dataScript_eq (report : Report) :
    dataScript report = element "script" [] (dataLines report) := rfl

theorem angles_dataLines (report : Report) : angles (listChars (dataLines report)) = [] := by
  have chart : angles "chartData".toList = [] := by decide
  have pivot : angles "pivotData".toList = [] := by decide
  have runs : angles "runsData".toList = [] := by decide
  simp only [dataLines, listChars_append, angles_append, angles_dataLine chart,
    angles_dataLine pivot, angles_dataLine runs]
  decide

theorem angles_dataScript (report : Report) :
    angles (dataScript report).chars = ['<', '>', '<', '>'] := by
  rw [dataScript_eq, chars_element, angles_append, angles_append, angles_dataLines]
  decide

/-! ### Scripts -/

theorem scriptEnds_endTag {name : String} (isName : isTagName name) (other : isScriptName name = false)
    (more : List Char) : scriptEnds (endTag name ++ more) = scriptEnds more := by
  have ends := scriptEnds_close isName more
  rw [other] at ends
  simpa [endTag] using ends

theorem scriptEnds_dataScript (report : Report) (more : List Char) :
    scriptEnds ((dataScript report).chars ++ more) = scriptEnds more + 1 :=
  scriptEnds_script rfl
    (scriptEnds_of_plain (isPlain_of_angles (angles_dataLines report))) more

theorem scriptEnds_line (indent : Nat) (more : List Char) :
    scriptEnds ((line indent).chars ++ more) = scriptEnds more :=
  scriptEnds_chars (line indent) (isTame_line indent) more

theorem scriptEnds_styleElement (more : List Char) :
    scriptEnds ((element "style" [] [raw style]).chars ++ more) = scriptEnds more := by
  change scriptEnds (tag "style" [] ++ ((style.toList ++ []) ++ endTag "style") ++ more) = _
  rw [List.append_nil, List.append_assoc, List.append_assoc, scriptEnds_tag (by decide) rfl,
    scriptEnds_style, scriptEnds_endTag (by decide) (by decide)]

theorem scriptEnds_head (options : Options) (more : List Char) :
    scriptEnds ((head options).chars ++ more) = scriptEnds more + 1 := by
  have charset (more : List Char) :
      scriptEnds ((void "meta" [attr "charset" "UTF-8"]).chars ++ more) = scriptEnds more :=
    scriptEnds_tag (by decide) (by decide) more
  have viewport (more : List Char) : scriptEnds ((void "meta" [attr "name" "viewport",
      attr "content" "width=device-width, initial-scale=1.0"]).chars ++ more) = scriptEnds more :=
    scriptEnds_tag (by decide) (by decide) more
  have title := scriptEnds_chars _ (isTame_title options)
  have library (more : List Char) : scriptEnds ((element "script"
      [attrOf "src" [.text options.chartJsUrl]] []).chars ++ more) = scriptEnds more + 1 :=
    scriptEnds_script (isTame_source options) (fun _ => rfl) more
  rw [head, chars_element "head", List.append_assoc, scriptEnds_tag (by decide) rfl]
  simp only [listChars_append, listChars_lines_cons, List.append_assoc, scriptEnds_line, charset,
    viewport, title, library, scriptEnds_styleElement]
  change scriptEnds ((line 0).chars ++ ([] ++ (endTag "head" ++ more))) + 1 = _
  rw [scriptEnds_line, List.nil_append, scriptEnds_endTag (by decide) (by decide)]

theorem scriptEnds_opening (report : Report) (options : Options) (more : List Char) :
    scriptEnds (opening report options ++ more) = scriptEnds more + 1 := by
  have content := scriptEnds_listChars _ (areTame_content report options)
  have doctype : tag "!DOCTYPE html" [] = tag "!DOCTYPE" [⟨"html", none⟩] := by decide
  simp only [opening, List.append_assoc]
  rw [doctype, scriptEnds_tag (by decide) (by decide), scriptEnds_line,
    scriptEnds_tag (by decide) (by decide)]
  simp only [listChars, List.append_assoc, List.nil_append, scriptEnds_line, scriptEnds_head]
  rw [scriptEnds_tag (by decide) rfl, listChars_append, List.append_assoc, content]
  simp only [listChars, List.append_assoc, List.nil_append, scriptEnds_line]

theorem scriptEnds_closing : scriptEnds closing = 1 := by
  have program (more : List Char) :
      scriptEnds ((element "script" [] [raw script]).chars ++ more) = scriptEnds more + 1 := by
    refine scriptEnds_script rfl (fun more => ?_) more
    change scriptEnds (script.toList ++ [] ++ more) = _
    rw [List.append_nil, scriptEnds_script_text]
  simp only [closing, listChars, List.append_assoc, List.nil_append, scriptEnds_line, program]
  decide

theorem scriptEnds_render (report : Report) (options : Options) :
    scriptEnds (render report options).toList = 3 := by
  rw [render_toList, scriptEnds_opening, scriptEnds_dataScript, scriptEnds_closing]

/-! ### The whole page -/

/-- A page is its opening, the script with the data, and the closing. -/
def HasParts (report : Report) (options : Options) : Prop :=
  (render report options).toList = opening report options ++ ((dataScript report).chars ++ closing)

/-- Two pages with the same markup. -/
structure SameMarkup (a b : Report) (o p : Options) : Prop where
  tags : angles (render a o).toList = angles (render b p).toList
  parts : HasParts a o ∧ HasParts b p
  /-- Tags, quotes and apostrophes, in one sequence. -/
  opening : delimiters (opening a o) = delimiters (opening b p)
  /-- The chart library, the data and the program. -/
  scripts : scriptEnds (render a o).toList = 3 ∧ scriptEnds (render b p).toList = 3

/-- The markup of a page depends on the shape of the report alone: no text and no figure of a
report, and nothing of the options, adds to it. -/
theorem render_sameMarkup {a b : Report} (same : a.shape = b.shape) (o p : Options) :
    SameMarkup a b o p where
  tags := by
    rw [render_toList, render_toList, angles_append, angles_append, angles_append, angles_append,
      ← angles_delimiters (opening a o), delimiters_opening same o p, angles_delimiters,
      angles_dataScript, angles_dataScript]
  parts := ⟨render_toList a o, render_toList b p⟩
  opening := delimiters_opening same o p
  scripts := ⟨scriptEnds_render a o, scriptEnds_render b p⟩

/-! ### Reports with one text everywhere -/

namespace Worded

def record (state : TestState) (s : String) : TestRecord :=
  ⟨s, s, state, 1.5, s, [s], [s], s, s, none⟩

def run (s : String) : Run where
  id := s
  startTime := s
  totalTests := 1
  passedTests := 1
  failedTests := 0
  environment := [(s, .string s)]
  totalRuntime := 1.5
  commit := s
  branch := s
  dirty := s
  description := s
  consoleLog := s
  tests := [record .passed s]

/-- A flaky test with a state of its own in one run and without a result in another. -/
def row (s : String) : Row where
  testName := s
  leafText := s
  containers := [s]
  cells := [⟨s, some (record .passed s)⟩, ⟨s, some (record .failed s)⟩,
    ⟨s, some (record (.other s) s)⟩, ⟨s, none⟩]

def report (s : String) : Report where
  runs := [run s, run s]
  rows := [row s]
  labels := [s]
  trend := ⟨⟨Trend.passRateStyle, [s], [100.0]⟩, ⟨Trend.durationStyle, [s], [1.5]⟩, []⟩
  summary := {
    totalRuns := 2
    totalTests := 1
    flakyTests := 1
    alwaysFailing := 0
    averageRuntime := 1.5
    latestRunId := some s
    latestPassRate := 100.0
    latestFailures := 0
    latestRuntime := 1.5
    latestBranch := some s
    latestCommit := some s
    latestDirty := true
    trend := .stable }

def options (s : String) : Options :=
  ⟨s, s, s⟩

end Worded

theorem sameMarkup_hostile :
    (Worded.report "checkout").shape = (Worded.report "</script><b title='\"'>").shape ∧
      SameMarkup (Worded.report "checkout") (Worded.report "</script><b title='\"'>")
        (Worded.options "checkout") (Worded.options "</script><b title='\"'>") := by
  have same : (Worded.report "checkout").shape = (Worded.report "</script><b title='\"'>").shape := rfl
  exact ⟨same, render_sameMarkup same _ _⟩

end TestHistory.Page
