import TestHistory.Keyed
import TestHistory.Text.Blank
import TestHistory.Text.LowerCase
import TestHistory.Yaml.Document

/-!
# Layers of settings

A layer maps keys to texts. Keys are brought to one form when they are set and when they are looked
up, so that `RUN_PREFIX` and `run-prefix` name one setting. Of merged layers the later one wins; of
two keys with one form in a document, the one that its hash map lists later.
-/

namespace TestHistory

/-- Sorted by key. -/
structure Layer where
  entries : List (String × String)
  deriving DecidableEq

namespace Layer

def empty : Layer :=
  ⟨[]⟩

def hyphenate (c : Char) : Char :=
  if c = '_' then '-' else c

def normalizeKey (key : String) : String :=
  (Text.lowerCase (Text.trim key)).map hyphenate

def insert (l : Layer) (key value : String) : Layer :=
  ⟨Keyed.put (normalizeKey key) value l.entries⟩

def get? (l : Layer) (key : String) : Option String :=
  l.entries.lookup (normalizeKey key)

/-- The entries of another layer on top of these. -/
def merge (l other : Layer) : Layer :=
  ⟨Keyed.putAll l.entries other.entries⟩

/-- From the lowest layer to the highest. -/
def mergeAll (layers : List Layer) : Layer :=
  layers.foldl merge empty

def ofList (settings : List (String × String)) : Layer :=
  settings.foldl (fun l (key, value) => l.insert key value) empty

/-- What the names of variables begin with. -/
def variableStart : String := "E2E_REPORT_"

def ofVariable (entry : String × String) : Option (String × String) :=
  if variableStart.toList.isPrefixOf entry.1.toList then
    some (String.ofList (entry.1.toList.drop variableStart.length), entry.2)
  else none

def ofVariables (environment : List (String × String)) : Layer :=
  ofList (environment.filterMap ofVariable)

/-! ### Settings in a document -/

/-- The text of a key, whatever its tags; other values are no keys. -/
def keyText : Yaml.Value → Option String
  | .string s => some s
  | .tagged _ value => keyText value
  | _ => none

/-- A key below a path; nothing joins a key to the root. -/
def joinKey (path key : String) : String :=
  if path = "" then key else path ++ "." ++ key

mutual

/-- The settings of a value: one for each scalar and each sequence that untagged mappings lead to,
named by the keys on the way. -/
def flatten (path : String) : Yaml.Value → List (String × String)
  | .mapping entries => flattenEntries path entries
  | .sequence items => [(path, ",".intercalate (items.filterMap Yaml.Value.scalarText))]
  | value => (value.scalarText.map fun text => (path, text)).toList

def flattenEntries (path : String) : List (Yaml.Value × Yaml.Value) → List (String × String)
  | [] => []
  | (key, value) :: entries =>
    match keyText key with
    | some key => flatten (joinKey path key) value ++ flattenEntries path entries
    | none => flattenEntries path entries

end

/-- The settings of a value, one for each path. -/
def dictionary (value : Yaml.Value) : List (String × String) :=
  Keyed.ofList (flatten "" value)

/-- The order in which a hash map lists its entries. It changes from map to map and from one process
to the next, so nothing is known of it but that every entry comes once. -/
structure HashOrder where
  list : List (String × String) → List (String × String)
  perm : ∀ entries, (list entries).Perm entries

/-- The order of the document. -/
def HashOrder.document : HashOrder :=
  ⟨id, fun _ => .refl _⟩

/-- The settings of a value are collected in a hash map, and set in the order in which it lists
them. -/
def ofYaml (value : Yaml.Value) (order : HashOrder := .document) : Layer :=
  ofList (order.list (Keyed.lastOnly (flatten "" value)))

end Layer

end TestHistory
