import TestHistory.Json.Tree

/-!
# Values of a fixed shape

A decoder reads a tree into a type of its own. A record may be written as an object, or as an
array of its fields in their order. Fields that the record does not know are not looked at, so
what stands in them need only be well nested.
-/

namespace TestHistory.Json

abbrev Decoder (α : Type) := Tree → Option α

namespace Decode

def string : Decoder String
  | .string s => s
  | _ => none

def bool : Decoder Bool
  | .bool b => some b
  | _ => none

/-- A whole number of 64 bits without sign. -/
def natural : Decoder Nat
  | .number (some (.int (.ofNat n))) => if n < Decimal.bound64 then some n else none
  | _ => none

def intFloat (n : Int) : Float :=
  Binary64.applySign (n < 0) (Binary64.ofNat n.natAbs)

/-- Any number. -/
def float : Decoder Float
  | .number (some (.int n)) => some (intFloat n)
  | .number (some (.float x)) => some x
  | _ => none

/-- Any value of at most `depth` levels. -/
def value (depth : Nat) : Decoder Value :=
  Tree.value? depth

/-- `null` reads as an absent value. -/
def nullable {α : Type} (decode : Decoder α) : Decoder (Option α)
  | .null => some none
  | tree => (decode tree).map some

/-- `null` reads as a default. -/
def orNull {α : Type} (default : α) (decode : Decoder α) : Decoder α
  | .null => some default
  | tree => decode tree

def list {α : Type} (decode : Decoder α) : Decoder (List α)
  | .array items => items.mapM decode
  | _ => none

def entry {α : Type} (decode : Decoder α) : Option String × Tree → Option (String × α)
  | (some key, tree) => (decode tree).map fun a => (key, a)
  | (none, _) => none

/-- An object with any keys, sorted by them; of equal keys the last one counts. -/
def entries {α : Type} (decode : Decoder α) : Decoder (List (String × α))
  | .object fields => (fields.mapM (entry decode)).map Keyed.ofList
  | _ => none

/-! ### Records -/

abbrev Fields := List (String × Tree)

/-- Every key has to be readable. -/
def keyed : List (Option String × Tree) → Option Fields
  | [] => some []
  | (some key, tree) :: fields => (keyed fields).map ((key, tree) :: ·)
  | (none, _) :: _ => none

/-- No field may stand twice. -/
def distinct : Fields → Bool
  | [] => true
  | (key, _) :: fields => (fields.lookup key).isNone && distinct fields

/-- The fields of an object that a record knows. -/
def known (names : List String) (fields : Fields) : Fields :=
  fields.filter fun (key, _) => names.contains key

/-- The fields of an object, split into those that a record knows and the others. -/
def splitObject (names : List String) : Tree → Option (Fields × Fields)
  | .object fields =>
    match keyed fields with
    | some fields =>
      if distinct (known names fields) then
        some (known names fields, fields.filter fun (key, _) => !names.contains key)
      else none
    | none => none
  | _ => none

/-- The fields of a record, from an object or from an array in the order of the names. -/
def record (names : List String) : Tree → Option Fields
  | .array items => if items.length ≤ names.length then some (names.zip items) else none
  | tree => (splitObject names tree).map (·.1)

def required {α : Type} (fields : Fields) (name : String) (decode : Decoder α) : Option α :=
  (fields.lookup name).bind decode

def optional {α : Type} (fields : Fields) (name : String) (default : α) (decode : Decoder α) :
    Option α :=
  match fields.lookup name with
  | none => some default
  | some tree => decode tree

end Decode

end TestHistory.Json
