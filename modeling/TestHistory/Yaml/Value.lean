import TestHistory.Decimal.Shortest

/-!
# YAML values

The values of the core schema, with mappings in document order and tags of their own kept.
-/

namespace TestHistory.Yaml

inductive Value where
  | null
  | bool (b : Bool)
  | int (n : Int)
  | float (x : Float)
  | string (s : String)
  | sequence (items : List Value)
  | mapping (entries : List (Value × Value))
  | tagged (tag : String) (value : Value)

def floatStyle : Decimal.FloatStyle where
  exponentPlus := false
  nan := ".nan"
  infinity := ".inf"
  minusInfinity := "-.inf"

namespace Value

/-- The text of a scalar, whatever its tags; null and collections have none. -/
def scalarText : Value → Option String
  | bool b => some (if b then "true" else "false")
  | int n => some (toString n)
  | float x => some (Decimal.floatText floatStyle x)
  | string s => some s
  | tagged _ value => value.scalarText
  | null | sequence _ | mapping _ => none

/-- Equal as numbers; every NaN equals every other. -/
def sameFloat (x y : Float) : Bool :=
  x == y || (x.isNaN && y.isNaN)

/-- The name that a tag is compared by: a further exclamation mark in front does not count. -/
def tagName (tag : String) : List Char :=
  match tag.toList with
  | '!' :: c :: rest => c :: rest
  | name => name

mutual

/-- Equal values; the order of entries does not count. -/
def same : Value → Value → Bool
  | null, null => true
  | bool a, bool b => a = b
  | int a, int b => a = b
  | float a, float b => sameFloat a b
  | string a, string b => a = b
  | sequence as, sequence bs => sameItems as bs
  | mapping as, mapping bs => as.length = bs.length && sameEntries as bs
  | tagged a x, tagged b y => tagName a = tagName b && x.same y
  | _, _ => false

def sameItems : List Value → List Value → Bool
  | [], [] => true
  | a :: as, b :: bs => a.same b && sameItems as bs
  | _, _ => false

/-- Every entry has an equal one on the other side. -/
def sameEntries : List (Value × Value) → List (Value × Value) → Bool
  | [], _ => true
  | (k, v) :: as, bs => bs.any (fun entry => k.same entry.1 && v.same entry.2) && sameEntries as bs

end

end Value

end TestHistory.Yaml
