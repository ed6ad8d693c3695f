import TestHistory.Json.Numeral
import TestHistory.Json.Token
import TestHistory.Keyed

/-!
# The structure of JSON text

`Tree.parse?` reads a text as it is nested, without judging what can wait: fields keep their order
and their repetitions, and a number out of range or a broken surrogate pair stands as a leaf
without content. `Tree.value?` is the value of a tree with all its leaves; `ofValue` goes back.
-/

namespace TestHistory.Json

inductive Tree where
  | null
  | bool (b : Bool)
  | number (n : Option Number)
  | string (s : Option String)
  | array (items : List Tree)
  | object (fields : List (Option String × Tree))

namespace Tree

def ofWord? (word : List Char) : Option Tree :=
  if word = ['n', 'u', 'l', 'l'] then some .null
  else if word = ['t', 'r', 'u', 'e'] then some (.bool true)
  else if word = ['f', 'a', 'l', 's', 'e'] then some (.bool false)
  else (Numeral.ofWord? word).map fun n => .number n.number?

/-- An array or object around the place that is being read. The last entry stands first. -/
inductive Frame where
  | array (items : List Tree)
  | object (fields : List (Option String × Tree)) (key : Option String)

/-- What has to come next, and the frames around it, the innermost first. -/
inductive Reader where
  | value (frames : List Frame)
  | firstItem (frames : List Frame)
  | afterItem (items : List Tree) (frames : List Frame)
  | firstKey (frames : List Frame)
  | nextKey (fields : List (Option String × Tree)) (frames : List Frame)
  | colon (fields : List (Option String × Tree)) (key : Option String) (frames : List Frame)
  | afterField (fields : List (Option String × Tree)) (frames : List Frame)
  | done (tree : Tree)

namespace Reader

/-- A value that is complete. -/
def deliver (tree : Tree) : List Frame → Reader
  | [] => .done tree
  | .array items :: frames => .afterItem (tree :: items) frames
  | .object fields key :: frames => .afterField ((key, tree) :: fields) frames

def startValue (frames : List Frame) : Token → Option Reader
  | .openArray => some (.firstItem frames)
  | .openObject => some (.firstKey frames)
  | .bare word => (ofWord? word).map fun tree => deliver tree frames
  | .quoted content => some (deliver (.string content) frames)
  | _ => none

def step : Reader → Token → Option Reader
  | .value frames, token => startValue frames token
  | .firstItem frames, .closeArray => some (deliver (.array []) frames)
  | .firstItem frames, token => startValue (.array [] :: frames) token
  | .afterItem items frames, .comma => some (.value (.array items :: frames))
  | .afterItem items frames, .closeArray => some (deliver (.array items.reverse) frames)
  | .firstKey frames, .closeObject => some (deliver (.object []) frames)
  | .firstKey frames, .quoted key => some (.colon [] key frames)
  | .nextKey fields frames, .quoted key => some (.colon fields key frames)
  | .colon fields key frames, .colon => some (.value (.object fields key :: frames))
  | .afterField fields frames, .comma => some (.nextKey fields frames)
  | .afterField fields frames, .closeObject => some (deliver (.object fields.reverse) frames)
  | _, _ => none

def run : Reader → List Token → Option Reader
  | r, [] => some r
  | r, token :: tokens =>
    match step r token with
    | some next => run next tokens
    | none => none

def finish : Reader → Option Tree
  | .done tree => some tree
  | _ => none

end Reader

def ofTokens? (tokens : List Token) : Option Tree :=
  (Reader.run (.value []) tokens).bind Reader.finish

def parse? (text : String) : Option Tree :=
  (tokens? text.toList).bind ofTokens?

mutual

/-- The value of a tree of at most `depth` levels of arrays and objects. -/
def value? (depth : Nat) : Tree → Option Value
  | null => some .null
  | bool b => some (.bool b)
  | number n => n.map .number
  | string s => s.map .string
  | array items =>
    match depth with
    | 0 => none
    | depth + 1 => (items? depth items).map .array
  | object fields =>
    match depth with
    | 0 => none
    | depth + 1 => (fields? depth fields).map fun fields => .object (Keyed.ofList fields)

def items? (depth : Nat) : List Tree → Option (List Value)
  | [] => some []
  | item :: items =>
    match item.value? depth, items? depth items with
    | some value, some values => some (value :: values)
    | _, _ => none

def fields? (depth : Nat) : List (Option String × Tree) → Option (List (String × Value))
  | [] => some []
  | (key, tree) :: fields =>
    match key, tree.value? depth, fields? depth fields with
    | some key, some value, some values => some ((key, value) :: values)
    | _, _, _ => none

end

mutual

def ofValue : Value → Tree
  | .null => .null
  | .bool b => .bool b
  | .number n => .number (some n)
  | .string s => .string (some s)
  | .array items => .array (ofItems items)
  | .object fields => .object (ofFields fields)

def ofItems : List Value → List Tree
  | [] => []
  | item :: items => ofValue item :: ofItems items

def ofFields : List (String × Value) → List (Option String × Tree)
  | [] => []
  | (key, value) :: fields => (some key, ofValue value) :: ofFields fields

end

end Tree

/-- No value nests deeper than this. -/
def maxDepth : Nat := 127

/-- The value that a text writes: keys sorted, the last of equal keys kept. -/
def Value.parse? (text : String) : Option Value :=
  (Tree.parse? text).bind (Tree.value? maxDepth)

end TestHistory.Json
