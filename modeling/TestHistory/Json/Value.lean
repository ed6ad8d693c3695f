import TestHistory.Decimal.Shortest

/-!
# JSON values and their text

Objects keep the order of their fields. `Value.compact` writes a value without blanks,
`Value.pretty` with a line for every item and two blanks per level.
-/

namespace TestHistory.Json

inductive Number where
  | int (n : Int)
  | float (x : Float)

inductive Value where
  | null
  | bool (b : Bool)
  | number (n : Number)
  | string (s : String)
  | array (items : List Value)
  | object (fields : List (String × Value))

/-- A float always shows a point or an exponent; outside the finite numbers it is `null`. -/
def floatStyle : Decimal.FloatStyle where
  exponentPlus := true
  nan := "null"
  infinity := "null"
  minusInfinity := "null"

def integerText (n : Int) : List Char :=
  if n < 0 then '-' :: Nat.toDigits 10 n.natAbs else Nat.toDigits 10 n.natAbs

def Number.text : Number → List Char
  | .int n => integerText n
  | .float x => (Decimal.floatText floatStyle x).toList

/-- Two hexadecimal digits of a number below 256. -/
def hexPair (n : Nat) : List Char :=
  [Nat.digitChar (n / 16), Nat.digitChar (n % 16)]

def escapeChar (c : Char) : List Char :=
  if c = '"' then ['\\', '"']
  else if c = '\\' then ['\\', '\\']
  else if c = '\n' then ['\\', 'n']
  else if c = '\r' then ['\\', 'r']
  else if c = '\t' then ['\\', 't']
  else if c.toNat = 8 then ['\\', 'b']
  else if c.toNat = 12 then ['\\', 'f']
  else if c.toNat < 0x20 then '\\' :: 'u' :: '0' :: '0' :: hexPair c.toNat
  else [c]

def quoted (s : String) : List Char :=
  '"' :: (s.toList.flatMap escapeChar ++ ['"'])

/-- A line break and the blanks of a level. -/
def newLine (level : Nat) : List Char :=
  '\n' :: List.replicate (2 * level) ' '

namespace Value

mutual

def compactChars : Value → List Char
  | null => ['n', 'u', 'l', 'l']
  | bool true => ['t', 'r', 'u', 'e']
  | bool false => ['f', 'a', 'l', 's', 'e']
  | number n => n.text
  | string s => quoted s
  | array [] => ['[', ']']
  | array (item :: items) => '[' :: (item.compactChars ++ compactItems items)
  | object [] => ['{', '}']
  | object ((key, value) :: fields) =>
    '{' :: (quoted key ++ ':' :: (value.compactChars ++ compactFields fields))

def compactItems : List Value → List Char
  | [] => [']']
  | item :: items => ',' :: (item.compactChars ++ compactItems items)

def compactFields : List (String × Value) → List Char
  | [] => ['}']
  | (key, value) :: fields =>
    ',' :: (quoted key ++ ':' :: (value.compactChars ++ compactFields fields))

end

mutual

def prettyChars (level : Nat) : Value → List Char
  | null => ['n', 'u', 'l', 'l']
  | bool true => ['t', 'r', 'u', 'e']
  | bool false => ['f', 'a', 'l', 's', 'e']
  | number n => n.text
  | string s => quoted s
  | array [] => ['[', ']']
  | array (item :: items) =>
    '[' :: (newLine (level + 1) ++ (item.prettyChars (level + 1) ++ prettyItems level items))
  | object [] => ['{', '}']
  | object ((key, value) :: fields) =>
    '{' :: (newLine (level + 1) ++ (quoted key ++ ':' :: ' ' ::
      (value.prettyChars (level + 1) ++ prettyFields level fields)))

def prettyItems (level : Nat) : List Value → List Char
  | [] => newLine level ++ [']']
  | item :: items =>
    ',' :: (newLine (level + 1) ++ (item.prettyChars (level + 1) ++ prettyItems level items))

def prettyFields (level : Nat) : List (String × Value) → List Char
  | [] => newLine level ++ ['}']
  | (key, value) :: fields =>
    ',' :: (newLine (level + 1) ++ (quoted key ++ ':' :: ' ' ::
      (value.prettyChars (level + 1) ++ prettyFields level fields)))

end

def compact (v : Value) : String :=
  String.ofList v.compactChars

def pretty (v : Value) : String :=
  String.ofList (v.prettyChars 0)

end Value

/-! ### Values of other types -/

def ofNat (n : Nat) : Value :=
  .number (.int n)

def ofFloat (x : Float) : Value :=
  .number (.float x)

def ofStrings (texts : List String) : Value :=
  .array (texts.map .string)

/-- An absent value is `null`. -/
def ofOption {α : Type} (write : α → Value) : Option α → Value
  | none => .null
  | some a => write a

/-- The value under a key. -/
def Value.field? (key : String) : Value → Option Value
  | .object fields => fields.lookup key
  | _ => none

end TestHistory.Json
