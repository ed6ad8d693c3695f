import TestHistory.Decimal.Reading
import TestHistory.Json.Value

/-!
# The numbers of JSON text

`Numeral.ofWord?` splits a word by the grammar of JSON numbers; `Numeral.number?` gives its value.
Whole numbers of 64 bits are kept exactly. All others go through one significand of at most 64
bits and one power of ten, so a float is not always the one nearest to its decimal.
-/

namespace TestHistory.Json

open TestHistory.Decimal (isDigit digitValue ofDecimal bound64)

structure Numeral where
  negative : Bool
  whole : List Char
  fraction : Option (List Char)
  /-- The sign, set when negative, and the digits. -/
  exponent : Option (Bool × List Char)

namespace Numeral

/-- A single zero, or digits that do not begin with one. -/
def isWhole (digits : List Char) : Bool :=
  match digits with
  | [] => false
  | '0' :: rest => rest.isEmpty
  | _ => true

def ofExponent? (text : List Char) : Option (Option (Bool × List Char)) :=
  match text with
  | [] => some none
  | c :: rest =>
    let (negative, digits) := match rest with
      | '-' :: digits => (true, digits)
      | '+' :: digits => (false, digits)
      | digits => (false, digits)
    if (c = 'e' ∨ c = 'E') ∧ digits ≠ [] ∧ digits.all isDigit then some (some (negative, digits))
    else none

def ofWord? (word : List Char) : Option Numeral :=
  let (negative, text) := match word with
    | '-' :: rest => (true, rest)
    | _ => (false, word)
  let whole := text.takeWhile isDigit
  if isWhole whole then
    match text.dropWhile isDigit with
    | '.' :: rest =>
      let fraction := rest.takeWhile isDigit
      if fraction.isEmpty then none
      else (ofExponent? (rest.dropWhile isDigit)).map fun exponent =>
        ⟨negative, whole, some fraction, exponent⟩
    | rest => (ofExponent? rest).map fun exponent => ⟨negative, whole, none, exponent⟩
  else none

/-- Appends digits to a significand as long as it stays below 64 bits; the digits that do not
fit are left over. -/
def gather (significand : Nat) : List Char → Nat × List Char
  | [] => (significand, [])
  | c :: rest =>
    let longer := significand * 10 + digitValue c
    if longer < bound64 then gather longer rest else (significand, c :: rest)

/-- `x / 10 ^ power`, in steps that doubles can hold. -/
def divideByPower (x : Float) (power : Nat) : Float :=
  if h : power ≤ 308 then x / Decimal.toFloat 1 power
  else if x == 0 then x
  else divideByPower (x / 1e308) (power - 308)
termination_by power
decreasing_by
  exact Nat.sub_lt (Nat.lt_of_lt_of_le (Nat.succ_pos _) (Nat.not_le.1 h)) (Nat.succ_pos _)

/-- Nothing when the value is beyond the finite doubles. -/
def scaled? (significand : Nat) (exponent : Int) : Option Float :=
  let x := Binary64.ofNat significand
  if exponent < 0 then some (divideByPower x exponent.natAbs)
  else if significand = 0 then some x
  else if 308 < exponent then none
  else
    let value := x * Decimal.toFloat 1 exponent
    if value.isFinite then some value else none

def maxExponent : Nat := 2147483647

def float? (n : Numeral) : Option Float :=
  let (significand, dropped) := gather 0 n.whole
  let fraction := n.fraction.getD []
  let (significand, unused) := gather significand fraction
  let exponent : Int := dropped.length - (fraction.length - unused.length : Nat)
  let magnitude := match n.exponent with
    | none => scaled? significand exponent
    | some (negative, digits) =>
      let power := ofDecimal digits
      if maxExponent < power then
        if significand = 0 ∨ negative then some 0.0 else none
      else scaled? significand (if negative then exponent - power else exponent + power)
  magnitude.map (Binary64.applySign n.negative)

/-- A negative zero is no whole number. -/
def int? (n : Numeral) : Option Int :=
  let value := ofDecimal n.whole
  if n.fraction.isSome ∨ n.exponent.isSome then none
  else if n.negative then (if 0 < value ∧ value ≤ Nat.pow 2 63 then some (-(value : Int)) else none)
  else if value < bound64 then some value else none

/-- The value, unless it is beyond the finite doubles. -/
def number? (n : Numeral) : Option Number :=
  match n.int? with
  | some value => some (.int value)
  | none => n.float?.map .float

end Numeral

end TestHistory.Json
