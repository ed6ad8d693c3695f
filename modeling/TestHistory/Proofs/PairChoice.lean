import TestHistory.Analysis.Comparison
import TestHistory.Proofs.Alignment
import TestHistory.Proofs.RowFigures
import TestHistory.Terminal.Listing

/-!
# Choosing two runs

`Chosen` says which run is meant by an id that may be absent, and `Resolves` how the choice of a
base and a head ends: with a pair, or with the first of three failures. `resolvePair` ends just so
(`resolvePair_eq_iff`), and without ids it chooses the runs that the page has chosen at first.
-/

namespace TestHistory

/-- The first run with an id. -/
def FirstWith (runs : List Run) (id : String) (run : Run) : Prop :=
  ∃ newer older, runs = newer ++ run :: older ∧ run.id = id ∧ ∀ other ∈ newer, other.id ≠ id

/-- The first run with the id, or the run at the place if there is no id. -/
def Chosen (runs : List Run) (place : Nat) : Option String → Run → Prop
  | some id, run => FirstWith runs id run
  | none, run => runs[place]? = some run

/-- An id that is given is the id of a run. -/
def Listed (runs : List Run) (wanted : Option String) : Prop :=
  ∀ id, wanted = some id → id ∈ runs.map Run.id

/-- How the choice ends, from the first check to the last. -/
inductive Resolves (runs : List Run) (base head : Option String) :
    Except Failure (Run × Run) → Prop where
  | notEnough : runs.length < 2 → Resolves runs base head (.error (.notEnoughRuns runs.length))
  | baseMissing {id : String} : 2 ≤ runs.length → base = some id → id ∉ runs.map Run.id →
    Resolves runs base head (.error (.runNotFound id (runs.map Run.id)))
  | headMissing {b : Run} {id : String} : 2 ≤ runs.length → Chosen runs 1 base b →
    head = some id → id ∉ runs.map Run.id →
    Resolves runs base head (.error (.runNotFound id (runs.map Run.id)))
  | same {b h : Run} : 2 ≤ runs.length → Chosen runs 1 base b → Chosen runs 0 head h →
    b.id = h.id → Resolves runs base head (.error (.sameRun b.id))
  | pair {b h : Run} : 2 ≤ runs.length → Chosen runs 1 base b → Chosen runs 0 head h →
    b.id ≠ h.id → Resolves runs base head (.ok (b, h))

/-! ### One run -/

section

variable {runs : List Run} {id : String} {wanted : Option String} {place : Nat} {run : Run}

theorem firstWith_iff : FirstWith runs id run ↔ runs.find? (fun r => r.id = id) = some run := by
  rw [List.find?_eq_some_iff_append, FirstWith]
  simp only [decide_eq_true_eq, Bool.not_eq_eq_eq_not, Bool.not_true, decide_eq_false_iff_not]
  constructor
  · rintro ⟨newer, older, split, same, others⟩
    exact ⟨same, newer, older, split, others⟩
  · rintro ⟨same, newer, older, split, others⟩
    exact ⟨newer, older, split, same, others⟩

theorem find?_id_eq_none_iff :
    runs.find? (fun r => r.id = id) = none ↔ id ∉ runs.map Run.id := by
  rw [List.find?_eq_none, List.mem_map]
  simp

theorem findRun_eq_ok_iff : findRun runs id = .ok run ↔ FirstWith runs id run := by
  rw [firstWith_iff, findRun]
  cases runs.find? fun r => r.id = id <;> simp

theorem findRun_eq_error_iff {f : Failure} :
    findRun runs id = .error f ↔
      id ∉ runs.map Run.id ∧ f = .runNotFound id (runs.map Run.id) := by
  rw [← find?_id_eq_none_iff, findRun]
  cases runs.find? fun r => r.id = id <;> simp [eq_comm]

theorem chooseRun_eq_ok_iff {default : Run} (found : runs[place]? = some default) :
    chooseRun runs default wanted = .ok run ↔ Chosen runs place wanted run := by
  cases wanted with
  | none => simp [chooseRun, Chosen, found]
  | some id => exact findRun_eq_ok_iff

theorem chooseRun_eq_error_iff {default : Run} {f : Failure} :
    chooseRun runs default wanted = .error f ↔
      ∃ id, wanted = some id ∧ id ∉ runs.map Run.id ∧ f = .runNotFound id (runs.map Run.id) := by
  cases wanted with
  | none => simp [chooseRun]
  | some id =>
    rw [chooseRun, findRun_eq_error_iff]
    simp

theorem Chosen.unique {other : Run} (first : Chosen runs place wanted run)
    (second : Chosen runs place wanted other) : run = other := by
  cases wanted with
  | none => exact Option.some.inj (first.symm.trans second)
  | some id =>
    exact Option.some.inj ((firstWith_iff.mp first).symm.trans (firstWith_iff.mp second))

theorem Chosen.listed (chosen : Chosen runs place wanted run) : Listed runs wanted := by
  rintro id rfl
  obtain ⟨newer, older, rfl, rfl, -⟩ := chosen
  simp

theorem Listed.exists_chosen (listed : Listed runs wanted) (inside : place < runs.length) :
    ∃ run, Chosen runs place wanted run := by
  cases wanted with
  | none => exact ⟨runs[place], List.getElem?_eq_getElem inside⟩
  | some id =>
    have present : runs.find? (fun r => r.id = id) ≠ none :=
      fun none => find?_id_eq_none_iff.mp none (listed id rfl)
    obtain ⟨run, found⟩ := Option.ne_none_iff_exists'.mp present
    exact ⟨run, firstWith_iff.mpr found⟩

end

/-! ### Two runs -/

section

variable {runs : List Run} {base head : Option String}

theorem resolvePair_of_short (short : runs.length < 2) :
    resolvePair runs base head = .error (.notEnoughRuns runs.length) := by
  match runs with
  | [] | [_] => rfl
  | _ :: _ :: _ =>
    simp only [List.length_cons] at short
    omega

/-- The base is looked for first, then the head, and only then are the two compared. -/
theorem exists_steps (base head : Option String) (enough : 2 ≤ runs.length) :
    ∃ latest previous, runs[0]? = some latest ∧ runs[1]? = some previous ∧
      resolvePair runs base head =
        match chooseRun runs previous base with
        | .error f => .error f
        | .ok b =>
          match chooseRun runs latest head with
          | .error f => .error f
          | .ok h => if b.id = h.id then .error (.sameRun b.id) else .ok (b, h) := by
  match runs with
  | [] | [_] =>
    simp at enough
  | latest :: previous :: older =>
    refine ⟨latest, previous, rfl, rfl, ?_⟩
    unfold resolvePair
    dsimp only
    cases chooseRun (latest :: previous :: older) previous base with
    | error f => rfl
    | ok b => cases chooseRun (latest :: previous :: older) latest head <;> rfl

theorem resolves_resolvePair : Resolves runs base head (resolvePair runs base head) := by
  by_cases short : runs.length < 2
  · rw [resolvePair_of_short short]
    exact .notEnough short
  · have enough : 2 ≤ runs.length := by omega
    obtain ⟨latest, previous, first, second, steps⟩ := exists_steps base head enough
    rw [steps]
    cases baseChoice : chooseRun runs previous base with
    | error f =>
      obtain ⟨id, given, missing, rfl⟩ := chooseRun_eq_error_iff.mp baseChoice
      exact .baseMissing enough given missing
    | ok b =>
      have chosenBase := (chooseRun_eq_ok_iff second).mp baseChoice
      cases headChoice : chooseRun runs latest head with
      | error f =>
        obtain ⟨id, given, missing, rfl⟩ := chooseRun_eq_error_iff.mp headChoice
        exact .headMissing enough chosenBase given missing
      | ok h =>
        have chosenHead := (chooseRun_eq_ok_iff first).mp headChoice
        by_cases same : b.id = h.id
        · simpa only [if_pos same] using .same enough chosenBase chosenHead same
        · simpa only [if_neg same] using .pair enough chosenBase chosenHead same

/-- The choice ends in one way. -/
theorem Resolves.eq {outcome : Except Failure (Run × Run)}
    (resolves : Resolves runs base head outcome) :
    resolvePair runs base head = outcome := by
  cases resolves with
  | notEnough short => exact resolvePair_of_short short
  | baseMissing enough given missing =>
    obtain ⟨latest, previous, -, -, steps⟩ := exists_steps base head enough
    rw [steps, chooseRun_eq_error_iff.mpr ⟨_, given, missing, rfl⟩]
  | headMissing enough chosen given missing =>
    obtain ⟨latest, previous, -, second, steps⟩ := exists_steps base head enough
    rw [steps, (chooseRun_eq_ok_iff second).mpr chosen,
      chooseRun_eq_error_iff.mpr ⟨_, given, missing, rfl⟩]
  | same enough chosenBase chosenHead same =>
    obtain ⟨latest, previous, first, second, steps⟩ := exists_steps base head enough
    rw [steps, (chooseRun_eq_ok_iff second).mpr chosenBase,
      (chooseRun_eq_ok_iff first).mpr chosenHead]
    exact if_pos same
  | pair enough chosenBase chosenHead different =>
    obtain ⟨latest, previous, first, second, steps⟩ := exists_steps base head enough
    rw [steps, (chooseRun_eq_ok_iff second).mpr chosenBase,
      (chooseRun_eq_ok_iff first).mpr chosenHead]
    exact if_neg different

theorem resolvePair_eq_iff {outcome : Except Failure (Run × Run)} :
    resolvePair runs base head = outcome ↔ Resolves runs base head outcome := by
  constructor
  · rintro rfl
    exact resolves_resolvePair
  · exact Resolves.eq

theorem resolvePair_succeeds_iff :
    (∃ pair, resolvePair runs base head = .ok pair) ↔
      2 ≤ runs.length ∧ Listed runs base ∧ Listed runs head ∧
        ∀ b h, Chosen runs 1 base b → Chosen runs 0 head h → b.id ≠ h.id := by
  simp only [resolvePair_eq_iff]
  constructor
  · rintro ⟨pair, resolves⟩
    obtain _ | _ | _ | _ | ⟨enough, chosenBase, chosenHead, different⟩ := resolves
    refine ⟨enough, chosenBase.listed, chosenHead.listed, ?_⟩
    intro b h first second
    rwa [first.unique chosenBase, second.unique chosenHead]
  · rintro ⟨enough, listedBase, listedHead, different⟩
    obtain ⟨b, chosenBase⟩ := listedBase.exists_chosen (show 1 < runs.length by omega)
    obtain ⟨h, chosenHead⟩ := listedHead.exists_chosen (show 0 < runs.length by omega)
    exact ⟨_, .pair enough chosenBase chosenHead (different b h chosenBase chosenHead)⟩

/-- Only an id of no run is not found, and then there is something to choose from. -/
theorem of_notFound {id : String} {available : List String}
    (failed : resolvePair runs base head = .error (.runNotFound id available)) :
    2 ≤ runs.length ∧ id ∉ runs.map Run.id ∧ available = runs.map Run.id := by
  cases resolvePair_eq_iff.mp failed with
  | baseMissing enough _ missing => exact ⟨enough, missing, rfl⟩
  | headMissing enough _ _ missing => exact ⟨enough, missing, rfl⟩

theorem resolvePair_default (distinct : (runs.map Run.id).Nodup) (enough : 2 ≤ runs.length) :
    resolvePair runs none none = .ok (runs[1], runs[0]) := by
  match runs with
  | [] | [_] => simp at enough
  | latest :: previous :: older =>
    have different : previous.id ≠ latest.id := by
      intro same
      simp [same] at distinct
    have resolves : Resolves (latest :: previous :: older) none none (.ok (previous, latest)) :=
      .pair enough rfl rfl different
    exact resolves.eq

end

/-! ### The choice on the page -/

namespace Page

/-- The menus of a tab. -/
def menus (tab : Html) : List Html :=
  (tab.childrenNamed "div").flatMap (Html.childrenNamed "select")

def menuOptions (menu : Html) : List Html :=
  menu.childrenNamed "option"

/-- The option is chosen before the reader chooses. -/
def isSelected (option : Html) : Bool :=
  option.attributes.any fun a => a.name = "selected"

/-- The menu has an option for every run, which gives the place of the run to the script, and of
these only the option of one run is selected. -/
structure Offers (menu : Html) (runs : List Run) (run : Run) : Prop where
  values : (menuOptions menu).map (Html.attribute? "value") =
    (List.range runs.length).map fun i => some (toString i)
  labels : (menuOptions menu).map (fun option => unescape option.content.toList) =
    runs.map fun run => (Terminal.runLabel run.id run.date run.totalRuntime).toList
  selected : ∃ i : Nat, runs[i]? = some run ∧
    ((menuOptions menu).filter isSelected).map (Html.attribute? "value") = [some (toString i)]

/-- The tab of the comparison, with a base and a head selected in its two menus. -/
structure Preselects (tab : Html) (runs : List Run) (base head : Run) : Prop where
  isComparison : tab.attribute? "id" = some "comparison"
  menus : ∃ baseMenu headMenu, menus tab = [baseMenu, headMenu] ∧
    baseMenu.attribute? "id" = some "runASelect" ∧ Offers baseMenu runs base ∧
    headMenu.attribute? "id" = some "runBSelect" ∧ Offers headMenu runs head

/-! #### Options -/

theorem options_runSelect (id : String) (selected : Nat) (runs : List Run) :
    menuOptions (runSelect id selected runs) =
      runs.zipIdx.map fun (run, index) => runChoice selected run index :=
  childrenNamed_lines (List.forall_mem_map.mpr fun _ _ => rfl) ..

theorem value_runChoice (selected : Nat) (run : Run) (index : Nat) :
    (runChoice selected run index).attribute? "value" = some (toString index) :=
  congrArg some (ofList_single index)

theorem isSelected_runChoice (selected : Nat) (run : Run) (index : Nat) :
    isSelected (runChoice selected run index) = decide (index = selected) := by
  by_cases same : index = selected <;>
    simp [runChoice, element, isSelected, Html.attributes, same]

/-- What the page adds to the id and the date is plain, so the label is escaped as a whole. -/
theorem content_runChoice (selected : Nat) (run : Run) (index : Nat) :
    (runChoice selected run index).content =
      escape (Terminal.runLabel run.id run.date run.totalRuntime) := by
  obtain ⟨first, dash, opening, closing⟩ : escape "Run " = "Run " ∧ escape " - " = " - " ∧
      escape " (" = " (" ∧ escape ")" = ")" := by decide
  have runtime := (Figure.duration run.totalRuntime).plain
  change escape (Time.duration run.totalRuntime) = _ at runtime
  simp only [Terminal.runLabel, escape_append, first, dash, opening, closing, runtime]
  change String.ofList ("Run ".toList ++ ((escape run.id).toList ++ (" - ".toList ++
    ((escape run.date).toList ++ (" (".toList ++
      ((Figure.duration run.totalRuntime).text.toList ++ (")".toList ++ []))))))) = _
  simp only [String.ofList_append, String.ofList_toList, List.append_nil, String.append_assoc]

/-- Every entry has a place of its own. -/
theorem filter_zipIdx {α : Type} {xs : List α} {i : Nat} {x : α} (found : xs[i]? = some x) :
    xs.zipIdx.filter (fun entry => entry.2 = i) = [(x, i)] := by
  have places : (xs.zipIdx.map Prod.snd).Nodup := by
    rw [List.zipIdx_map_snd]
    exact List.nodup_range'
  have perm : (xs.zipIdx.filter fun entry => entry.2 = i).Perm [(x, i)] := by
    rw [List.perm_ext_iff_of_nodup ((List.Nodup.of_map _ places).filter _) (List.nodup_singleton _)]
    rintro ⟨y, j⟩
    rw [List.mem_filter, List.mk_mem_zipIdx_iff_getElem?, List.mem_singleton, decide_eq_true_eq,
      Prod.mk.injEq]
    constructor
    · rintro ⟨present, rfl⟩
      exact ⟨Option.some.inj (present.symm.trans found), rfl⟩
    · rintro ⟨rfl, rfl⟩
      exact ⟨found, rfl⟩
  exact List.perm_singleton.mp perm

theorem offers_runSelect {runs : List Run} {selected : Nat} {run : Run}
    (found : runs[selected]? = some run) (id : String) :
    Offers (runSelect id selected runs) runs run where
  values := by
    have values : Html.attribute? "value" ∘
        (fun (entry : Run × Nat) => runChoice selected entry.1 entry.2) =
          (fun i => some (toString i)) ∘ Prod.snd := by
      funext entry
      exact value_runChoice selected entry.1 entry.2
    rw [options_runSelect, List.map_map, values, ← List.map_map, List.zipIdx_map_snd,
      List.range_eq_range']
  labels := by
    have labels : (fun option => unescape (Html.content option).toList) ∘
        (fun (entry : Run × Nat) => runChoice selected entry.1 entry.2) =
          (fun run => (Terminal.runLabel run.id run.date run.totalRuntime).toList) ∘ Prod.fst := by
      funext entry
      have content := content_runChoice selected entry.1 entry.2
      rw [Function.comp_apply, content, unescape_escape, Function.comp_apply]
    rw [options_runSelect, List.map_map, labels, ← List.map_map, List.zipIdx_map_fst]
  selected := by
    have chosen : isSelected ∘ (fun (entry : Run × Nat) => runChoice selected entry.1 entry.2) =
        fun entry => decide (entry.2 = selected) := by
      funext entry
      exact isSelected_runChoice selected entry.1 entry.2
    refine ⟨selected, found, ?_⟩
    rw [options_runSelect, List.filter_map, chosen, filter_zipIdx found, List.map_singleton,
      List.map_singleton, value_runChoice]

/-! #### The tab -/

theorem menus_comparison (runs : List Run) :
    menus (comparison runs) =
      [runSelect "runASelect" 1 runs, runSelect "runBSelect" 0 runs] :=
  rfl

theorem preselects_comparison {runs : List Run} (enough : 2 ≤ runs.length) :
    Preselects (comparison runs) runs runs[1] runs[0] where
  isComparison := rfl
  menus := ⟨_, _, menus_comparison runs, rfl, offers_runSelect (List.getElem?_eq_getElem enough) _,
    rfl, offers_runSelect (List.getElem?_eq_getElem (by omega)) _⟩

theorem mem_allNodes {h : Html} {page : List Html} :
    h ∈ Html.allNodes page ↔ ∃ node ∈ page, h ∈ node.nodes := by
  induction page with
  | nil => simp [Html.allNodes]
  | cons node rest ih => simp [Html.allNodes, ih]

theorem mem_nodes_self (h : Html) : h ∈ h.nodes := by
  cases h <;> simp [Html.nodes]

/-- What is inside a child is inside the element. -/
theorem mem_nodes_element {h child : Html} {children : List Html} (inside : h ∈ child.nodes)
    (member : child ∈ children) (name : String) (attributes : List Attribute) :
    h ∈ (Html.element name attributes children).nodes :=
  List.mem_cons_of_mem _ (mem_allNodes.mpr ⟨child, member, inside⟩)

theorem mem_document {report : Report} (options : Options) (several : hasComparison report) :
    comparison report.runs ∈ Html.allNodes (document report options) := by
  have tab := mem_nodes_self (comparison report.runs)
  have inContainer : comparison report.runs ∈ Html.allNodes (content report options) := by
    refine mem_allNodes.mpr ⟨_, List.mem_cons_of_mem _ List.mem_cons_self, ?_⟩
    refine mem_nodes_element tab ?_ _ _
    simp [comparisonTab, several]
  obtain ⟨node, member, inside⟩ := mem_allNodes.mp inContainer
  have inBody : comparison report.runs ∈ (body report options).nodes :=
    mem_nodes_element inside (List.mem_append_left _ member) _ _
  refine mem_allNodes.mpr ⟨element "html" [attr "lang" "en"]
    [line 0, head options, line 0, body report options, line 0], by simp [document], ?_⟩
  exact mem_nodes_element inBody (by simp) _ _

end Page

/-- The choice of two runs ends as `Resolves` says, and succeeds just if there are two runs or more,
the given ids are listed and two ids are chosen. Without ids the page has the same two selected. -/
theorem resolvePair_chooses (runs : List Run) (base head : Option String) :
    (∀ outcome, resolvePair runs base head = outcome ↔ Resolves runs base head outcome) ∧
      ((∃ pair, resolvePair runs base head = .ok pair) ↔
        2 ≤ runs.length ∧ Listed runs base ∧ Listed runs head ∧
          ∀ b h, Chosen runs 1 base b → Chosen runs 0 head h → b.id ≠ h.id) ∧
      ((runs.map Run.id).Nodup → 2 ≤ runs.length → ∀ options : Page.Options, ∃ b h tab,
        resolvePair runs none none = .ok (b, h) ∧
          tab ∈ Page.Html.allNodes (Page.document (Report.ofRuns runs) options) ∧
          Page.Preselects tab runs b h) := by
  refine ⟨fun _ => resolvePair_eq_iff, resolvePair_succeeds_iff, ?_⟩
  intro distinct enough options
  have several : Page.hasComparison (Report.ofRuns runs) := decide_eq_true enough
  exact ⟨_, _, _, resolvePair_default distinct enough, Page.mem_document options several,
    Page.preselects_comparison enough⟩

namespace Renamed

/-- Two runs of three have one id. -/
def runs : List Run :=
  [.bare "8" [], .bare "7" [], .bare "8" []]

def others : List Run :=
  [.bare "8" [], .bare "7" []]

end Renamed

theorem resolvePair_chooses_renamed :
    resolvePair Renamed.runs (some "8") none = .error (.sameRun "8") ∧
      resolvePair Renamed.runs (some "9") (some "6") =
        .error (.runNotFound "9" ["8", "7", "8"]) ∧
      (Renamed.others.map Run.id).Nodup ∧ 2 ≤ Renamed.others.length ∧
      ∃ b h tab, resolvePair Renamed.others none none = .ok (b, h) ∧
        tab ∈ Page.Html.allNodes
          (Page.document (Report.ofRuns Renamed.others) (Page.Worded.options "checkout")) ∧
        Page.Preselects tab Renamed.others b h := by
  have distinct : (Renamed.others.map Run.id).Nodup := by decide
  have enough : 2 ≤ Renamed.others.length := by decide
  have newest : FirstWith Renamed.runs "8" (.bare "8" []) := ⟨[], _, rfl, rfl, nofun⟩
  have same : Resolves Renamed.runs (some "8") none (.error (.sameRun (Run.bare "8" []).id)) :=
    .same (by decide) newest rfl rfl
  refine ⟨?_, ?_, distinct, enough,
    (resolvePair_chooses Renamed.others none none).2.2 distinct enough _⟩
  · exact ((resolvePair_chooses Renamed.runs (some "8") none).1 _).mpr same
  · exact ((resolvePair_chooses Renamed.runs (some "9") (some "6")).1 _).mpr
      (.baseMissing (by decide) rfl (by decide))

end TestHistory
