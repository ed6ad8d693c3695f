import TestHistory.Decimal.Binary64

/-!
# Reading decimals

`readNatural` reads an unsigned number below a bound, with an optional plus sign. `readFloat`
reads a decimal and gives the double nearest to it.
-/

namespace TestHistory.Decimal

def isDigit (c : Char) : Bool :=
  '0' ≤ c && c ≤ '9'

def digitValue (c : Char) : Nat :=
  c.toNat - '0'.toNat

/-- The number that a run of digits of a given base writes. -/
def ofDigits (base : Nat) (digits : List Nat) : Nat :=
  digits.foldl (fun n d => n * base + d) 0

def ofDecimal (digits : List Char) : Nat :=
  ofDigits 10 (digits.map digitValue)

/-- The value of a digit in a base of at most sixteen. -/
def digitIn? (base : Nat) (c : Char) : Option Nat :=
  let value :=
    if isDigit c then digitValue c
    else if 'a' ≤ c && c ≤ 'f' then c.toNat - 'a'.toNat + 10
    else if 'A' ≤ c && c ≤ 'F' then c.toNat - 'A'.toNat + 10
    else base
  if value < base then some value else none

/-- One or more digits of a base, and nothing else. -/
def naturalIn? (base : Nat) (text : List Char) : Option Nat :=
  if text.isEmpty then none
  else (text.mapM (digitIn? base)).map (ofDigits base)

def bound64 : Nat := Nat.pow 2 64

/-- An unsigned number of 64 bits: digits after an optional plus sign. -/
def readNatural (text : List Char) : Option Nat :=
  let digits := match text with
    | '+' :: rest => rest
    | _ => text
  (naturalIn? 10 digits).filter (· < bound64)

/-- `significand · 10 ^ exponent` as the nearest double. Powers of ten far outside the range of
doubles are decided without computing them. -/
def toFloat (significand : Nat) (exponent : Int) : Float :=
  let top := (Nat.toDigits 10 significand).length + exponent
  if significand = 0 ∨ top < -400 then 0.0
  else if 400 < top then 1.0 / 0.0
  else Float.ofScientific significand (exponent < 0) exponent.natAbs

def lowerAscii (text : List Char) : List Char :=
  text.map Char.toLower

/-- The exponent after the letter: an optional sign and digits. -/
def exponent? : List Char → Option Int
  | '+' :: digits => (naturalIn? 10 digits).map Int.ofNat
  | '-' :: digits => (naturalIn? 10 digits).map fun n => -Int.ofNat n
  | digits => (naturalIn? 10 digits).map Int.ofNat

/-- An unsigned decimal: digits with at most one point among them, then perhaps an exponent. -/
def unsignedFloat? (text : List Char) : Option Float :=
  let whole := text.takeWhile isDigit
  let afterWhole := text.dropWhile isDigit
  let (fraction, tail) := match afterWhole with
    | '.' :: rest => (rest.takeWhile isDigit, rest.dropWhile isDigit)
    | _ => ([], afterWhole)
  if whole.isEmpty && fraction.isEmpty then none
  else
    let power := match tail with
      | [] => some 0
      | c :: rest => if c = 'e' ∨ c = 'E' then exponent? rest else none
    power.map fun p => toFloat (ofDecimal (whole ++ fraction)) (p - fraction.length)

/-- A decimal with an optional sign, or one of the words `inf`, `infinity` and `nan` in any
case. -/
def readFloat (text : List Char) : Option Float :=
  let (negative, body) := match text with
    | '-' :: rest => (true, rest)
    | '+' :: rest => (false, rest)
    | _ => (false, text)
  let magnitude :=
    if lowerAscii body = "inf".toList ∨ lowerAscii body = "infinity".toList then some (1.0 / 0.0)
    else if lowerAscii body = "nan".toList then some (0.0 / 0.0)
    else unsignedFloat? body
  magnitude.map (Binary64.applySign negative)

end TestHistory.Decimal
