import TestHistory.Decimal.Binary64

/-!
# The shortest decimal that reads back

Every double is the rounding of an interval of reals. `Shortest.decimal` walks decimal grids from
coarse to fine and takes the first grid with a point in the interval, so no shorter decimal reads
back as the same double; of the two neighbours of the value on that grid it takes the nearer.
-/

namespace TestHistory.Decimal

/-- `digits · 10 ^ exponent`. -/
structure Scaled where
  digits : Nat
  exponent : Int
  deriving DecidableEq, Repr

namespace Shortest

/-- The reals that round to `significand · 2 ^ exponent`, in units of a quarter of the last
place: `low ≤ 4 · significand ≤ high`, the ends included when `closed`. -/
structure Interval where
  low : Nat
  value : Nat
  high : Nat
  closed : Bool
  exponent : Int

def interval (significand : Nat) (exponent : Int) : Interval where
  low := 4 * significand - (if significand = Binary64.hiddenBit ∧ -1074 < exponent then 1 else 2)
  value := 4 * significand
  high := 4 * significand + 2
  closed := significand % 2 = 0
  exponent := exponent - 2

def within (i : Interval) (scale point : Nat) : Bool :=
  if i.closed then i.low * scale ≤ point && point ≤ i.high * scale
  else i.low * scale < point && point < i.high * scale

/-- The point of the grid `10 ^ grid` nearest to the value that still reads back, if there is
one; a tie goes to the even point. -/
def onGrid (i : Interval) (grid : Int) : Option Nat :=
  let step := Nat.pow 10 grid.toNat * Nat.pow 2 (-i.exponent).toNat
  let scale := Nat.pow 10 (-grid).toNat * Nat.pow 2 i.exponent.toNat
  let value := i.value * scale
  let below := value / step
  let lower := within i scale (below * step)
  let upper := within i scale ((below + 1) * step)
  let rest := value - below * step
  if lower && upper then
    if 2 * rest < step || (2 * rest = step && below % 2 = 0) then some below else some (below + 1)
  else if lower then some below
  else if upper then some (below + 1)
  else none

def search (i : Interval) : Nat → Int → Scaled
  | 0, grid => ⟨0, grid⟩
  | n + 1, grid =>
    match onGrid i grid with
    | some digits => ⟨digits, grid⟩
    | none => search i n (grid - 1)

/-- An exponent of ten not below that of the value. -/
def startGrid (significand : Nat) (exponent : Int) : Int :=
  Int.fdiv ((Nat.log2 significand + exponent) * 30103) 100000 + 1

def stripZeros : Nat → Scaled → Scaled
  | 0, d => d
  | n + 1, d => if d.digits % 10 = 0 then stripZeros n ⟨d.digits / 10, d.exponent + 1⟩ else d

end Shortest

/-- The shortest decimal of `significand · 2 ^ exponent`, without trailing zeros. -/
def shortest (significand : Nat) (exponent : Int) : Scaled :=
  if significand = 0 then ⟨0, 0⟩
  else
    Shortest.stripZeros 20
      (Shortest.search (Shortest.interval significand exponent) 20
        (Shortest.startGrid significand exponent))

/-- How a number format writes floating point: the texts outside the finite numbers, and whether
a positive exponent carries its sign. -/
structure FloatStyle where
  exponentPlus : Bool
  nan : String
  infinity : String
  minusInfinity : String

/-- The point stands inside the digits for exponents from -5 to 15; elsewhere the number has one
digit before the point and an exponent. A point always shows outside exponent notation. -/
def Scaled.render (style : FloatStyle) (d : Scaled) : List Char :=
  let digits := Nat.toDigits 10 d.digits
  let point : Int := digits.length + d.exponent
  if d.digits = 0 then ['0', '.', '0']
  else if -5 < point ∧ point ≤ 0 then
    '0' :: '.' :: (List.replicate (-point).toNat '0' ++ digits)
  else if 0 < point ∧ point ≤ 16 then
    if 0 ≤ d.exponent then digits ++ List.replicate d.exponent.toNat '0' ++ ['.', '0']
    else digits.take point.toNat ++ '.' :: digits.drop point.toNat
  else
    let mantissa := match digits with
      | [] => []
      | [c] => [c]
      | c :: rest => c :: '.' :: rest
    let power := point - 1
    let sign := if power < 0 then ['-'] else if style.exponentPlus then ['+'] else []
    mantissa ++ 'e' :: (sign ++ Nat.toDigits 10 power.natAbs)

/-- The shortest text of a double. -/
def floatText (style : FloatStyle) (x : Float) : String :=
  match Binary64.magnitude x with
  | .nan => style.nan
  | .infinite => if Binary64.isNegative x then style.minusInfinity else style.infinity
  | .finite significand exponent =>
    let text := (shortest significand exponent).render style
    String.ofList (if Binary64.isNegative x then '-' :: text else text)

end TestHistory.Decimal
