import Mathlib.Data.List.Forall2
import TestHistory.Page.Figure
import TestHistory.Proofs.ScriptJson

/-!
# Markup and what is put into it

The `template` of a tree is the tree with nothing in its slots for texts and figures. In a `tame`
tree no slot holds data of a script and no word of the page holds a tag. Such a tree has the
delimiters of its template, whatever stands in the slots, and ends no script.
-/

namespace TestHistory.Page

/-! ### Delimiters -/

def isAngle (c : Char) : Bool :=
  c = '<' || c = '>'

/-- The characters that end a content, a tag or the value of an attribute. -/
def isDelimiter (c : Char) : Bool :=
  isAngle c || c = '"' || c = '\''

def delimiters (text : List Char) : List Char :=
  text.filter isDelimiter

def angles (text : List Char) : List Char :=
  text.filter isAngle

@[simp] theorem delimiters_append (a b : List Char) :
    delimiters (a ++ b) = delimiters a ++ delimiters b :=
  List.filter_append ..

@[simp] theorem angles_append (a b : List Char) : angles (a ++ b) = angles a ++ angles b :=
  List.filter_append ..

/-- The angles are among the delimiters. -/
theorem angles_delimiters (text : List Char) : angles (delimiters text) = angles text := by
  rw [angles, delimiters, List.filter_filter]
  congr 1
  funext c
  cases angle : isAngle c <;> simp [isDelimiter, angle]

theorem isDelimiter_of_mem_escapeChar {c d : Char} (member : d ∈ escapeChar c) :
    isDelimiter d = false := by
  have harmless : (escapeChar c).all (!isDelimiter ·) := by
    unfold escapeChar
    split_ifs with ampersand less greater quote apostrophe
    · rfl
    · rfl
    · rfl
    · rfl
    · rfl
    · simp [isDelimiter, isAngle, less, greater, quote, apostrophe]
  simpa using List.all_eq_true.mp harmless d member

theorem delimiters_escape (s : String) : delimiters (escape s).toList = [] := by
  rw [escape, String.toList_ofList, delimiters, List.filter_eq_nil_iff]
  intro d member
  obtain ⟨c, -, escaped⟩ := List.mem_flatMap.mp member
  simp [isDelimiter_of_mem_escapeChar escaped]

theorem delimiters_figure (f : Figure) : delimiters f.text.toList = [] := by
  rw [← f.plain]
  exact delimiters_escape f.text

theorem toNat_lt_of_isClassChar {c : Char} (h : isClassChar c) : c.toNat < 128 := by
  have small {high : UInt32} (below : c.val ≤ high) (ascii : high.toNat < 128) : c.toNat < 128 :=
    Nat.lt_of_le_of_lt below ascii
  obtain alphanumeric | hyphen := (Bool.or_eq_true _ _).mp h
  · obtain letter | digit := (Bool.or_eq_true _ _).mp alphanumeric
    · obtain upper | lower := (Bool.or_eq_true _ _).mp letter
      · exact small (of_decide_eq_true upper).2 (by decide)
      · exact small (of_decide_eq_true ((Bool.and_eq_true _ _).mp lower).2) (by decide)
    · exact small (of_decide_eq_true ((Bool.and_eq_true _ _).mp digit).2) (by decide)
  · exact of_decide_eq_true hyphen ▸ (by decide)

theorem isDelimiter_toLower {c : Char} (h : isClassChar c) : isDelimiter c.toLower = false := by
  have all : ∀ n < 128, isClassChar (Char.ofNat n) → isDelimiter (Char.ofNat n).toLower = false := by
    decide
  have kept := all c.toNat (toNat_lt_of_isClassChar h)
  rw [Char.ofNat_toNat] at kept
  exact kept h

theorem delimiters_className (s : String) : delimiters (className s).toList = [] := by
  rw [className, String.toList_ofList, delimiters, List.filter_eq_nil_iff]
  intro d member
  obtain ⟨c, kept, rfl⟩ := List.mem_map.mp member
  simp [isDelimiter_toLower (List.mem_filter.mp kept).2]

theorem angles_scriptJson (v : Json.Value) : angles (scriptJson v).toList = [] := by
  rw [angles, List.filter_eq_nil_iff]
  intro c member angle
  refine not_mem_scriptSpecials_of_scriptJson member ?_
  rcases (Bool.or_eq_true _ _).mp angle with less | greater
  · simp [of_decide_eq_true less, scriptSpecials]
  · simp [of_decide_eq_true greater, scriptSpecials]

/-! ### Templates -/

/-- A slot with nothing in it; words of the page stay. -/
def Fragment.template : Fragment → Fragment
  | markup s => markup s
  | figure _ => figure .blank
  | text _ => text ""
  | className _ => className ""
  | data _ => data .null

def Attribute.template (a : Attribute) : Attribute :=
  ⟨a.name, a.value.map fun fragments => fragments.map Fragment.template⟩

namespace Html

mutual

/-- The tree with nothing in its slots. -/
def template : Html → Html
  | fragment f => fragment f.template
  | element name attributes children =>
    element name (attributes.map Attribute.template) (templates children)
  | void name attributes => void name (attributes.map Attribute.template)

def templates : List Html → List Html
  | [] => []
  | node :: nodes => node.template :: templates nodes

end

theorem templates_eq_map (nodes : List Html) : templates nodes = nodes.map template := by
  induction nodes with
  | nil => rfl
  | cons node nodes ih => rw [templates, ih, List.map_cons]

@[simp] theorem templates_nil : templates [] = [] := rfl

@[simp] theorem templates_cons (node : Html) (nodes : List Html) :
    templates (node :: nodes) = node.template :: templates nodes := rfl

@[simp] theorem templates_append (a b : List Html) :
    templates (a ++ b) = templates a ++ templates b := by
  simp only [templates_eq_map, List.map_append]

@[simp] theorem templates_lines (indent : Nat) (nodes : List Html) :
    templates (lines indent nodes) = lines indent (templates nodes) := by
  induction nodes with
  | nil => rfl
  | cons node nodes ih => exact congrArg (fun rest => line indent :: node.template :: rest) ih

@[simp] theorem template_element (name : String) (attributes : List Attribute)
    (children : List Html) : (Page.element name attributes children).template =
      Page.element name (attributes.map Attribute.template) (templates children) := rfl

@[simp] theorem template_classed (name className : String) (children : List Html) :
    (classed name className children).template = classed name className (templates children) := rfl

@[simp] theorem template_raw (s : String) : (raw s).template = raw s := rfl

@[simp] theorem template_text (s : String) : (text s).template = text "" := rfl

@[simp] theorem template_figure (f : Figure) : (figure f).template = figure .blank := rfl

@[simp] theorem template_number (n : Nat) : (number n).template = figure .blank := rfl

@[simp] theorem template_line (indent : Nat) : (line indent).template = line indent := rfl

end Html

@[simp] theorem template_attr (name value : String) : (attr name value).template = attr name value :=
  rfl

@[simp] theorem template_attrOf (name : String) (value : List Fragment) :
    (attrOf name value).template = attrOf name (value.map Fragment.template) := rfl

/-! ### Tame trees -/

/-- No tag begins or ends in the text. -/
def isPlain (text : List Char) : Bool :=
  text.all (!isAngle ·)

/-- A slot for texts or figures, or words of the page without a tag. -/
def Fragment.isTame : Fragment → Bool
  | markup s => isPlain s.toList
  | data _ => false
  | _ => true

def Attribute.isTame (a : Attribute) : Bool :=
  isPlain a.name.toList && (a.value.getD []).all Fragment.isTame

def isNameChar (c : Char) : Bool :=
  !isAngle c && c ≠ ' '

def isTagName (name : String) : Bool :=
  name.toList.all isNameChar && name.toList.head?.any (· ≠ '/')

theorem isPlain_of_isTagName {name : String} (isName : isTagName name) : isPlain name.toList := by
  refine List.all_eq_true.mpr fun c member => ?_
  have char := List.all_eq_true.mp ((Bool.and_eq_true _ _).mp isName).1 c member
  exact ((Bool.and_eq_true _ _).mp char).1

def isScriptName (name : String) : Bool :=
  ['s', 'c', 'r', 'i', 'p', 't'].isPrefixOf name.toList

namespace Html

mutual

/-- No data, no scripts, and no tags but those of the tree. -/
def isTame : Html → Bool
  | fragment f => f.isTame
  | element name attributes children =>
    isTagName name && !isScriptName name && attributes.all Attribute.isTame && areTame children
  | void name attributes => isTagName name && attributes.all Attribute.isTame

def areTame : List Html → Bool
  | [] => true
  | node :: nodes => node.isTame && areTame nodes

end

theorem areTame_eq_all (nodes : List Html) : areTame nodes = nodes.all isTame := by
  induction nodes with
  | nil => rfl
  | cons node nodes ih => rw [areTame, ih, List.all_cons]

@[simp] theorem areTame_nil : areTame [] = true := rfl

@[simp] theorem areTame_cons (node : Html) (nodes : List Html) :
    areTame (node :: nodes) = (node.isTame && areTame nodes) := rfl

@[simp] theorem areTame_append (a b : List Html) : areTame (a ++ b) = (areTame a && areTame b) := by
  simp only [areTame_eq_all, List.all_append]

theorem isPlain_spaces (n : Nat) : isPlain (List.replicate n ' ') :=
  List.all_eq_true.mpr fun _ member => List.eq_of_mem_replicate member ▸ rfl

@[simp] theorem isTame_line (indent : Nat) : (line indent).isTame = true := by
  change isPlain (String.ofList ('\n' :: List.replicate indent ' ')).toList = true
  rw [String.toList_ofList]
  exact isPlain_spaces indent

@[simp] theorem areTame_lines (indent : Nat) (nodes : List Html) :
    areTame (lines indent nodes) = areTame nodes := by
  induction nodes with
  | nil => rfl
  | cons node nodes ih =>
    change ((line indent).isTame && (node.isTame && areTame (lines indent nodes))) = _
    rw [ih, isTame_line, Bool.true_and, areTame_cons]

@[simp] theorem isTame_element (name : String) (attributes : List Attribute)
    (children : List Html) : (Page.element name attributes children).isTame =
      (isTagName name && !isScriptName name && attributes.all Attribute.isTame &&
        areTame children) := rfl

@[simp] theorem isTame_classed (name className : String) (children : List Html) :
    (classed name className children).isTame =
      (isTagName name && !isScriptName name && [attr "class" className].all Attribute.isTame &&
        areTame children) := rfl

@[simp] theorem isTame_raw (s : String) : (raw s).isTame = isPlain s.toList := rfl

@[simp] theorem isTame_text (s : String) : (text s).isTame = true := rfl

@[simp] theorem isTame_figure (f : Figure) : (figure f).isTame = true := rfl

@[simp] theorem isTame_number (n : Nat) : (number n).isTame = true := rfl

end Html

@[simp] theorem isTame_attr (name value : String) :
    (attr name value).isTame = (isPlain name.toList && isPlain value.toList) := by
  simp [attr, Attribute.isTame, Fragment.isTame]

@[simp] theorem isTame_attrOf (name : String) (value : List Fragment) :
    (attrOf name value).isTame = (isPlain name.toList && value.all Fragment.isTame) := rfl

/-! ### The delimiters of a tame tree -/

theorem Fragment.delimiters_template {f : Fragment} (tame : f.isTame) :
    delimiters f.chars = delimiters f.template.chars := by
  cases f with
  | markup s => rfl
  | figure f => exact delimiters_figure f
  | text s => exact delimiters_escape s
  | className s => exact delimiters_className s
  | data v => exact Bool.noConfusion tame

theorem delimiters_flatMap {α : Type} (chars : α → List Char) (f : α → α) {parts : List α}
    (same : ∀ part ∈ parts, delimiters (chars part) = delimiters (chars (f part))) :
    delimiters (parts.flatMap chars) = delimiters ((parts.map f).flatMap chars) := by
  induction parts with
  | nil => rfl
  | cons part parts ih =>
    rw [List.map_cons, List.flatMap_cons, List.flatMap_cons, delimiters_append, delimiters_append,
      same part List.mem_cons_self, ih fun other member => same other (List.mem_cons_of_mem _ member)]

theorem Attribute.delimiters_template {a : Attribute} (tame : a.isTame) :
    delimiters a.chars = delimiters a.template.chars := by
  obtain ⟨name, value⟩ := a
  match value with
  | none => rfl
  | some fragments =>
    rw [Attribute.isTame, Bool.and_eq_true] at tame
    have slots := delimiters_flatMap Fragment.chars Fragment.template fun f member =>
      Fragment.delimiters_template (List.all_eq_true.mp tame.2 f member)
    rw [Option.getD_some] at slots
    simp only [Attribute.chars, Attribute.template, Option.map_some]
    change delimiters ([' '] ++ (name.toList ++ (['=', '"'] ++ (_ ++ ['"'])))) =
      delimiters ([' '] ++ (name.toList ++ (['=', '"'] ++ (_ ++ ['"']))))
    simp only [delimiters_append, slots]

namespace Html

theorem delimiters_tag (name : String) {attributes : List Attribute}
    (tame : attributes.all Attribute.isTame) :
    delimiters (tag name attributes) = delimiters (tag name (attributes.map Attribute.template)) := by
  have values := delimiters_flatMap Attribute.chars Attribute.template fun a member =>
    Attribute.delimiters_template (List.all_eq_true.mp tame a member)
  change delimiters (['<'] ++ (name.toList ++ (_ ++ ['>']))) =
    delimiters (['<'] ++ (name.toList ++ (_ ++ ['>'])))
  simp only [delimiters_append, values]

mutual

/-- What stands in the slots of a tame tree adds no delimiter. -/
theorem delimiters_template (h : Html) (tame : h.isTame) :
    delimiters h.chars = delimiters h.template.chars := by
  match h with
  | fragment f => exact f.delimiters_template tame
  | element name attributes children =>
    simp only [isTame, Bool.and_eq_true] at tame
    obtain ⟨⟨-, attributesTame⟩, childrenTame⟩ := tame
    simp only [template, chars, delimiters_append, delimiters_tag name attributesTame,
      delimiters_templates children childrenTame]
  | void name attributes =>
    simp only [isTame, Bool.and_eq_true] at tame
    exact delimiters_tag name tame.2

theorem delimiters_templates (nodes : List Html) (tame : areTame nodes) :
    delimiters (listChars nodes) = delimiters (listChars (templates nodes)) := by
  match nodes with
  | [] => rfl
  | node :: nodes =>
    rw [areTame, Bool.and_eq_true] at tame
    rw [templates, listChars, listChars, delimiters_append, delimiters_append,
      delimiters_template node tame.1, delimiters_templates nodes tame.2]

end

end Html

/-! ### Ends of scripts -/

/-- How often a pattern occurs in a text. -/
def occurrences (pattern : List Char) : List Char → Nat
  | [] => 0
  | c :: text =>
    if pattern.isPrefixOf (c :: text) then occurrences pattern text + 1 else occurrences pattern text

/-- With this a browser ends a script. -/
def scriptEnd : List Char :=
  ['<', '/', 's', 'c', 'r', 'i', 'p', 't']

def scriptEnds (text : List Char) : Nat :=
  occurrences scriptEnd text

theorem scriptEnds_cons_of_ne {c : Char} (other : c ≠ '<') (text : List Char) :
    scriptEnds (c :: text) = scriptEnds text := by
  have head : ('<' == c) = false := by simpa using other.symm
  rw [scriptEnds, occurrences, scriptEnd, List.isPrefixOf, head]
  rfl

theorem ne_less_of_not_isAngle {c : Char} (plain : !isAngle c) : c ≠ '<' := by
  rintro rfl
  exact Bool.noConfusion plain

theorem scriptEnds_of_plain {text : List Char} (plain : isPlain text) (more : List Char) :
    scriptEnds (text ++ more) = scriptEnds more := by
  induction text with
  | nil => rfl
  | cons c text ih =>
    rw [isPlain, List.all_cons, Bool.and_eq_true] at plain
    rw [List.cons_append, scriptEnds_cons_of_ne (ne_less_of_not_isAngle plain.1), ih plain.2]

theorem isPrefixOf_append_cons {pattern : List Char} {c : Char} (absent : c ∉ pattern)
    (text more : List Char) :
    pattern.isPrefixOf (text ++ c :: more) = pattern.isPrefixOf text := by
  induction pattern generalizing text with
  | nil => simp
  | cons d pattern ih =>
    rw [List.mem_cons, not_or] at absent
    cases text with
    | nil => simp [List.isPrefixOf, Ne.symm absent.1]
    | cons e text => simp [List.isPrefixOf, ih absent.2]

/-- Nothing that ends a script reaches over the end of a line. -/
theorem scriptEnds_append_line (text more : List Char) :
    scriptEnds (text ++ '\n' :: more) = scriptEnds text + scriptEnds more := by
  induction text with
  | nil =>
    rw [List.nil_append, scriptEnds_cons_of_ne (by decide)]
    exact (Nat.zero_add _).symm
  | cons c text ih =>
    have inLine : scriptEnd.isPrefixOf (c :: (text ++ '\n' :: more)) = scriptEnd.isPrefixOf (c :: text) :=
      isPrefixOf_append_cons (by decide) (c :: text) more
    rw [List.cons_append]
    simp only [scriptEnds, occurrences, inLine] at ih ⊢
    split
    · rw [ih, Nat.add_right_comm]
    · exact ih

theorem scriptEnds_less (text : List Char) :
    scriptEnds ('<' :: text) =
      scriptEnds text + if ['/', 's', 'c', 'r', 'i', 'p', 't'].isPrefixOf text then 1 else 0 := by
  rw [scriptEnds, occurrences]
  change (if ['/', 's', 'c', 'r', 'i', 'p', 't'].isPrefixOf text then _ else _) = _
  split <;> rfl

namespace Html

theorem scriptEnds_close {name : String} (isName : isTagName name) (more : List Char) :
    scriptEnds ('<' :: '/' :: (name.toList ++ '>' :: more)) =
      scriptEnds more + if isScriptName name then 1 else 0 := by
  have ends : ['/', 's', 'c', 'r', 'i', 'p', 't'].isPrefixOf ('/' :: (name.toList ++ '>' :: more)) =
      isScriptName name :=
    isPrefixOf_append_cons (by decide) name.toList more
  rw [scriptEnds_less, ends, scriptEnds_cons_of_ne (by decide),
    scriptEnds_of_plain (isPlain_of_isTagName isName), scriptEnds_cons_of_ne (by decide)]

theorem isPlain_append (a b : List Char) : isPlain (a ++ b) = (isPlain a && isPlain b) :=
  List.all_append

theorem isPlain_flatMap {α : Type} {chars : α → List Char} {parts : List α}
    (plain : ∀ part ∈ parts, isPlain (chars part)) : isPlain (parts.flatMap chars) := by
  rw [isPlain, List.all_flatMap]
  exact List.all_eq_true.mpr plain

theorem isPlain_of_angles {text : List Char} (none : angles text = []) : isPlain text := by
  rw [angles, List.filter_eq_nil_iff] at none
  exact List.all_eq_true.mpr fun c member =>
    (Bool.not_eq_true' _).mpr (Bool.eq_false_iff.mpr (none c member))

theorem isPlain_of_delimiters {text : List Char} (none : delimiters text = []) : isPlain text := by
  apply isPlain_of_angles
  rw [← angles_delimiters, none]
  rfl

theorem isPlain_fragment {f : Fragment} (tame : f.isTame) : isPlain f.chars := by
  cases f with
  | markup s => exact tame
  | figure f => exact isPlain_of_delimiters (delimiters_figure f)
  | text s => exact isPlain_of_delimiters (delimiters_escape s)
  | className s => exact isPlain_of_delimiters (delimiters_className s)
  | data v => exact Bool.noConfusion tame

theorem isPlain_attribute {a : Attribute} (tame : a.isTame) : isPlain a.chars := by
  obtain ⟨name, value⟩ := a
  rw [Attribute.isTame, Bool.and_eq_true, List.all_eq_true] at tame
  obtain ⟨plainName, slots⟩ := tame
  match value with
  | none =>
    change isPlain ([' '] ++ (name.toList ++ []))
    rw [isPlain_append, isPlain_append, plainName]
    rfl
  | some fragments =>
    have plain : isPlain (fragments.flatMap Fragment.chars) :=
      isPlain_flatMap fun f member => isPlain_fragment (slots f member)
    change isPlain ([' '] ++ (name.toList ++ (['=', '"'] ++ (fragments.flatMap Fragment.chars ++ ['"']))))
    simp only [isPlain_append, plainName, plain, Bool.true_and]
    rfl

/-- What a tag has between `<` and `>`. -/
def inside (name : String) (attributes : List Attribute) : List Char :=
  name.toList ++ attributes.flatMap Attribute.chars

theorem tag_eq_inside (name : String) (attributes : List Attribute) :
    tag name attributes = '<' :: (inside name attributes ++ ['>']) := by
  rw [tag, inside, List.append_assoc]

theorem isPlain_inside {name : String} {attributes : List Attribute} (isName : isTagName name)
    (tame : attributes.all Attribute.isTame) : isPlain (inside name attributes) := by
  have values : isPlain (attributes.flatMap Attribute.chars) :=
    isPlain_flatMap fun a member => isPlain_attribute (List.all_eq_true.mp tame a member)
  rw [inside, isPlain_append, isPlain_of_isTagName isName, values, Bool.true_and]

/-- A tag with another name than that of an ending one ends no script. -/
theorem scriptEnds_tag {name : String} {attributes : List Attribute} (isName : isTagName name)
    (tame : attributes.all Attribute.isTame) (more : List Char) :
    scriptEnds (tag name attributes ++ more) = scriptEnds more := by
  have plain := isPlain_inside isName tame
  have first := ((Bool.and_eq_true _ _).mp isName).2
  have opens (text : List Char) :
      ['/', 's', 'c', 'r', 'i', 'p', 't'].isPrefixOf (name.toList ++ text) = false := by
    cases chars : name.toList with
    | nil => simp [chars] at first
    | cons c rest =>
      have other : c ≠ '/' := by simpa [chars] using first
      simp [List.isPrefixOf, other.symm]
  rw [tag_eq_inside, List.cons_append, scriptEnds_less, List.append_assoc,
    scriptEnds_of_plain plain, inside, List.append_assoc, opens, List.singleton_append,
    scriptEnds_cons_of_ne (by decide)]
  rfl

mutual

/-- A tame tree ends no script. -/
theorem scriptEnds_chars (h : Html) (tame : h.isTame) (more : List Char) :
    scriptEnds (h.chars ++ more) = scriptEnds more := by
  match h with
  | fragment f => exact scriptEnds_of_plain (isPlain_fragment tame) more
  | element name attributes children =>
    simp only [isTame, Bool.and_eq_true, Bool.not_eq_true'] at tame
    obtain ⟨⟨⟨isName, noScript⟩, attributesTame⟩, childrenTame⟩ := tame
    simp only [chars, List.append_assoc, List.cons_append, List.nil_append]
    rw [scriptEnds_tag isName attributesTame, scriptEnds_listChars children childrenTame,
      scriptEnds_close isName, noScript]
    rfl
  | void name attributes =>
    simp only [isTame, Bool.and_eq_true] at tame
    exact scriptEnds_tag tame.1 tame.2 more

theorem scriptEnds_listChars (nodes : List Html) (tame : areTame nodes) (more : List Char) :
    scriptEnds (listChars nodes ++ more) = scriptEnds more := by
  match nodes with
  | [] => rfl
  | node :: nodes =>
    rw [areTame, Bool.and_eq_true] at tame
    rw [listChars, List.append_assoc, scriptEnds_chars node tame.1,
      scriptEnds_listChars nodes tame.2]

end

/-- A script ends once when no tag begins in it. -/
theorem scriptEnds_script {attributes : List Attribute} {children : List Html}
    (tame : attributes.all Attribute.isTame)
    (inside : ∀ more, scriptEnds (listChars children ++ more) = scriptEnds more) (more : List Char) :
    scriptEnds ((element "script" attributes children).chars ++ more) = scriptEnds more + 1 := by
  have isName : isTagName "script" := by decide
  simp only [chars, List.append_assoc, List.cons_append, List.nil_append]
  rw [scriptEnds_tag isName tame, inside, scriptEnds_close isName]
  rfl

end Html

/-! ### Lines of text -/

/-- The characters of every line. -/
inductive Spelled : List String → List (List Char) → Prop where
  | nil : Spelled [] []
  | cons {line : String} {chars : List Char} {lines : List String} {rest : List (List Char)}
      (same : line = String.ofList chars) (spelled : Spelled lines rest) :
      Spelled (line :: lines) (chars :: rest)

theorem scriptEnds_of_spelled {lines : List String} {chars : List (List Char)}
    (spelled : Spelled lines chars) (none : chars.all fun line => scriptEnds line = 0) :
    ∀ line ∈ lines, scriptEnds line.toList = 0 := by
  induction spelled with
  | nil => exact List.forall_mem_nil _
  | cons same _ ih =>
    rw [List.all_cons, Bool.and_eq_true, decide_eq_true_eq] at none
    rw [List.forall_mem_cons, same, String.toList_ofList]
    exact ⟨none.1, ih none.2⟩

theorem scriptEnds_intercalate {lines : List (List Char)} (none : ∀ line ∈ lines, scriptEnds line = 0)
    (more : List Char) :
    scriptEnds (['\n'].intercalate lines ++ '\n' :: more) = scriptEnds more := by
  induction lines with
  | nil => exact scriptEnds_cons_of_ne (by decide) more
  | cons line rest ih =>
    rw [List.forall_mem_cons] at none
    cases rest with
    | nil =>
      rw [List.intercalate_singleton, scriptEnds_append_line, none.1, Nat.zero_add]
    | cons next rest =>
      rw [List.intercalate_cons_cons, List.append_assoc, List.append_assoc, List.singleton_append,
        scriptEnds_append_line, none.1, Nat.zero_add, ih none.2]

end TestHistory.Page
