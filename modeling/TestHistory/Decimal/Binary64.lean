/-!
# Doubles seen through their bit pattern

`magnitude x` gives the exact value of a double as `significand · 2 ^ exponent`, `rank` places
every double, both zeros and all NaNs included, on one line of integers, and `position` places
the numbers alone with both zeros on one place.
-/

namespace TestHistory.Binary64

/-- The value of a double without its sign. -/
inductive Magnitude where
  | finite (significand : Nat) (exponent : Int)
  | infinite
  | nan
  deriving DecidableEq, Repr

/-- The significands of normal numbers begin here. -/
def hiddenBit : Nat := Nat.pow 2 52

def signBit : Nat := Nat.pow 2 63

def isNegative (x : Float) : Bool :=
  signBit ≤ x.toBits.toNat

/-- The bit pattern without the sign bit. -/
def pattern (x : Float) : Nat :=
  x.toBits.toNat % signBit

def magnitude (x : Float) : Magnitude :=
  let exponent : Nat := pattern x / hiddenBit
  let fraction : Nat := pattern x % hiddenBit
  if exponent = 2047 then
    if fraction = 0 then .infinite else .nan
  else if exponent = 0 then .finite fraction (-1074)
  else .finite (fraction + hiddenBit) (exponent - 1075)

/-- The place of a double in the total order: negative patterns run backwards below zero. -/
def rank (x : Float) : Int :=
  if isNegative x then -(pattern x : Int) - 1 else pattern x

/-- The place of a number in the numeric order, where the two zeros share one place. -/
def position (x : Float) : Int :=
  if isNegative x then -(pattern x : Int) else pattern x

/-- The smaller of two doubles; a NaN gives way to the other one, equal numbers keep the first. -/
def least (a b : Float) : Float :=
  if b.isNaN then a
  else if a.isNaN || position b < position a then b else a

/-- The larger of two doubles; a NaN gives way to the other one, equal numbers keep the first. -/
def greatest (a b : Float) : Float :=
  if b.isNaN then a
  else if a.isNaN || position a < position b then b else a

def ofNat (n : Nat) : Float :=
  n.toUInt64.toFloat

def applySign (negative : Bool) (x : Float) : Float :=
  if negative then -x else x

/-- The nearest integer, a half going away from zero. -/
def round (x : Float) : Float :=
  match magnitude x with
  | .finite significand exponent =>
    if 0 ≤ exponent then x
    else
      let unit := Nat.pow 2 (-exponent).toNat
      applySign (isNegative x) (ofNat ((2 * significand + unit) / (2 * unit)))
  | _ => x

/-- The whole part of a positive number, as far as 64 bits reach. -/
def wholePart (x : Float) : Nat :=
  match magnitude x with
  | .finite significand exponent =>
    if 0 ≤ exponent then min (significand * Nat.pow 2 exponent.toNat) (2 * signBit - 1)
    else significand / Nat.pow 2 (-exponent).toNat
  | _ => 0

/-- One decimal place, a half going away from zero. -/
def roundTenth (x : Float) : Float :=
  round (x * 10) / 10

/-- The sum from left to right, from a given start. -/
def sum (start : Float) (xs : List Float) : Float :=
  xs.foldl (· + ·) start

end TestHistory.Binary64
