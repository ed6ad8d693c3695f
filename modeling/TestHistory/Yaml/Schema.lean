import TestHistory.Decimal.Reading
import TestHistory.Yaml.Value

/-!
# The core schema

`ofPlain?` gives the value that a plain scalar stands for: null, a truth value, a number, or else
its text. Numbers with more than 64 bits are refused as long as 128 bits hold them; longer ones
are floats. A tag may ask for a kind of value.
-/

namespace TestHistory.Yaml

open TestHistory.Decimal (isDigit naturalIn?)

namespace Schema

def bool? (text : String) : Option Bool :=
  if ["true", "True", "TRUE"].contains text then some true
  else if ["false", "False", "FALSE"].contains text then some false
  else none

def isNull (text : String) : Bool :=
  ["null", "Null", "NULL", "~"].contains text

def unsigned (text : List Char) : List Char :=
  match text with
  | '+' :: rest => rest
  | '-' :: rest => rest
  | _ => text

/-- Several digits that begin with a zero are a text. -/
def isPaddedDigits (text : List Char) : Bool :=
  match unsigned text with
  | '0' :: c :: rest => (c :: rest).all isDigit
  | _ => false

/-- Digits after a mark of their base. -/
def marked? : List Char → Option Nat
  | '0' :: 'x' :: digits => naturalIn? 16 digits
  | '0' :: 'o' :: digits => naturalIn? 8 digits
  | '0' :: 'b' :: digits => naturalIn? 2 digits
  | digits => naturalIn? 10 digits

/-- A whole number of any size. -/
def integer? (text : List Char) : Option Int :=
  if isPaddedDigits text then none
  else match text with
    | '-' :: rest => (marked? rest).map fun n => -(n : Int)
    | '+' :: rest => (marked? rest).map Int.ofNat
    | _ => (marked? text).map Int.ofNat

/-- A finite decimal or one of the words for infinities and NaN. -/
def float? (text : List Char) : Option Float :=
  let body := match text with
    | '+' :: rest => rest
    | _ => text
  let word := String.ofList body
  let finite := match text, body with
    | '+' :: _, '+' :: _ | '+' :: _, '-' :: _ => none
    | _, _ => (Decimal.readFloat body).filter Float.isFinite
  if [".inf", ".Inf", ".INF"].contains word then some (1.0 / 0.0)
  else if ["-.inf", "-.Inf", "-.INF"].contains (String.ofList text) then some (-1.0 / 0.0)
  else if [".nan", ".NaN", ".NAN"].contains (String.ofList text) then some (0.0 / 0.0)
  else finite

inductive Range where
  | inside
  /-- Beyond 64 bits but not beyond 128. -/
  | tooLong
  | beyond

def rangeOf (n : Int) : Range :=
  if -(Nat.pow 2 63 : Nat) ≤ n ∧ n < (Nat.pow 2 64 : Nat) then .inside
  else if -(Nat.pow 2 127 : Nat) ≤ n ∧ n < (Nat.pow 2 128 : Nat) then .tooLong
  else .beyond

/-- A scalar that is no integer. -/
def ofOther (text : String) : Value :=
  match float? text.toList with
  | some x => if isPaddedDigits text.toList then .string text else .float x
  | none => .string text

def ofPlain? (text : String) : Option Value :=
  if text = "" ∨ isNull text then some .null
  else match bool? text with
    | some b => some (.bool b)
    | none =>
      match integer? text.toList with
      | none => some (ofOther text)
      | some n =>
        match rangeOf n with
        | .inside => some (.int n)
        | .tooLong => none
        | .beyond => some (ofOther text)

/-- A scalar without a tag; only a plain one stands for anything but its text. -/
def ofUntagged? (plain : Bool) (text : String) : Option Value :=
  if plain then ofPlain? text else some (.string text)

def coreTag (name : String) : List UInt8 :=
  ("tag:yaml.org,2002:" ++ name).toUTF8.toList

/-- The exclamation mark that begins tags of one's own. -/
def ownMark : UInt8 := 33

/-- The part of a tag of its own after the exclamation mark, which may stand alone. It has to be
text. -/
def ownTag? (tag : List UInt8) : Option String :=
  match tag with
  | [] => none
  | mark :: name =>
    if mark = ownMark then String.fromUTF8? ⟨(if name = [] then tag else name).toArray⟩ else none

/-- A scalar with a tag that asks for a kind of value; one of its own that is no text asks for
nothing. -/
def ofCoreTag? (tag : List UInt8) (plain : Bool) (text : String) : Option Value :=
  if tag = coreTag "bool" then (bool? text).map .bool
  else if tag = coreTag "int" then
    (integer? text.toList).bind fun n =>
      match rangeOf n with
      | .inside => some (.int n)
      | _ => none
  else if tag = coreTag "float" then (float? text.toList).map .float
  else if tag = coreTag "null" then (if isNull text then some .null else none)
  else if tag.head? = some ownMark then ofUntagged? plain text
  else some (.string text)

def ofScalar? (tag : Option (List UInt8)) (plain : Bool) (text : String) : Option Value :=
  match tag with
  | none => ofUntagged? plain text
  | some tag =>
    match ownTag? tag with
    | some own => (ofUntagged? plain text).map (.tagged own)
    | none => ofCoreTag? tag plain text

/-- A collection with its tag, if that is one of its own. -/
def ofCollection (tag : Option (List UInt8)) (value : Value) : Value :=
  match tag.bind ownTag? with
  | some own => .tagged own value
  | none => value

end Schema

end TestHistory.Yaml
