import TestHistory.Json.Value

/-!
# Trees of markup

`Html.chars` is the only place where a tree becomes text, and there every text of the report is
escaped for where it stands: as content or attribute, as a class name, or as data of a script.
What the program words itself stands as it is; a `Figure` is such a text that depends on the report.
-/

namespace TestHistory.Page

/-- The five characters that mean something in markup. -/
def escapeChar (c : Char) : List Char :=
  if c = '&' then ['&', 'a', 'm', 'p', ';']
  else if c = '<' then ['&', 'l', 't', ';']
  else if c = '>' then ['&', 'g', 't', ';']
  else if c = '"' then ['&', 'q', 'u', 'o', 't', ';']
  else if c = '\'' then ['&', '#', '3', '9', ';']
  else [c]

def escape (text : String) : String :=
  String.ofList (text.toList.flatMap escapeChar)

theorem escape_append (a b : String) : escape (a ++ b) = escape a ++ escape b := by
  simp [escape, String.ofList_append]

theorem escape_of_plain {text : List Char} (plain : ∀ c ∈ text, escapeChar c = [c]) :
    escape (String.ofList text) = String.ofList text := by
  rw [escape, String.toList_ofList]
  congr 1
  induction text with
  | nil => rfl
  | cons c text ih =>
    rw [List.flatMap_cons, plain c List.mem_cons_self,
      ih fun d member => plain d (List.mem_cons_of_mem c member)]
    rfl

/-- A number or a word of the program, which escaping would not change. -/
structure Figure where
  text : String
  plain : escape text = text

def Figure.blank : Figure :=
  ⟨"", rfl⟩

/-- JSON stays the same value when characters of its texts are written as escapes. -/
def scriptChar (c : Char) : List Char :=
  if c = '<' then ['\\', 'u', '0', '0', '3', 'c']
  else if c = '>' then ['\\', 'u', '0', '0', '3', 'e']
  else if c = '&' then ['\\', 'u', '0', '0', '2', '6']
  else if c = '\u2028' then ['\\', 'u', '2', '0', '2', '8']
  else if c = '\u2029' then ['\\', 'u', '2', '0', '2', '9']
  else [c]

/-- JSON inside a script, which cannot end the script. -/
def scriptJson (v : Json.Value) : String :=
  String.ofList (v.compactChars.flatMap scriptChar)

def isClassChar (c : Char) : Bool :=
  c.isAlphanum || c = '-'

/-- Letters, digits and hyphens of a text, in lower case. -/
def className (text : String) : String :=
  String.ofList ((text.toList.filter isClassChar).map Char.toLower)

inductive Fragment where
  /-- Stands as it is. -/
  | markup (s : String)
  | figure (f : Figure)
  | text (s : String)
  | className (s : String)
  | data (v : Json.Value)

def Fragment.chars : Fragment → List Char
  | markup s => s.toList
  | figure f => f.text.toList
  | text s => (escape s).toList
  | className s => (Page.className s).toList
  | data v => (scriptJson v).toList

structure Attribute where
  name : String
  /-- Nothing for a name that stands alone. -/
  value : Option (List Fragment)

def Attribute.chars (a : Attribute) : List Char :=
  ' ' :: (a.name.toList ++
    match a.value with
    | some fragments => '=' :: '"' :: (fragments.flatMap Fragment.chars ++ ['"'])
    | none => [])

inductive Html where
  | fragment (f : Fragment)
  | element (name : String) (attributes : List Attribute) (children : List Html)
  /-- An element without content and end. -/
  | void (name : String) (attributes : List Attribute)

namespace Html

def tag (name : String) (attributes : List Attribute) : List Char :=
  '<' :: (name.toList ++ (attributes.flatMap Attribute.chars ++ ['>']))

mutual

def chars : Html → List Char
  | fragment f => f.chars
  | element name attributes children =>
    tag name attributes ++ (listChars children ++ '<' :: '/' :: (name.toList ++ ['>']))
  | void name attributes => tag name attributes

def listChars : List Html → List Char
  | [] => []
  | node :: nodes => node.chars ++ listChars nodes

end

def render (nodes : List Html) : String :=
  String.ofList (listChars nodes)

end Html

/-! ### Short forms -/

/-- An attribute of the page itself. -/
def attr (name value : String) : Attribute :=
  ⟨name, some [.markup value]⟩

def attrOf (name : String) (value : List Fragment) : Attribute :=
  ⟨name, some value⟩

def element (name : String) (attributes : List Attribute) (children : List Html) : Html :=
  .element name attributes children

def classed (name className : String) (children : List Html) : Html :=
  .element name [attr "class" className] children

def raw (s : String) : Html :=
  .fragment (.markup s)

def text (s : String) : Html :=
  .fragment (.text s)

def figure (f : Figure) : Html :=
  .fragment (.figure f)

/-- A new line that is indented. -/
def line (indent : Nat) : Html :=
  .fragment (.markup (String.ofList ('\n' :: List.replicate indent ' ')))

/-- Every node on a line of its own. -/
def lines (indent : Nat) (nodes : List Html) : List Html :=
  nodes.flatMap fun node => [line indent, node]

end TestHistory.Page
