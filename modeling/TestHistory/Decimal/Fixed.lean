import TestHistory.Decimal.Binary64

/-!
# A fixed number of decimal places

`fixed places x` rounds the exact binary value of a double to `places` decimals; a tie goes to
the even neighbour. The sign of a negative zero is kept.
-/

namespace TestHistory.Decimal

/-- `numerator / denominator` to the nearest integer, a tie going to the even one. -/
def divideToEven (numerator denominator : Nat) : Nat :=
  let quotient := numerator / denominator
  let rest := numerator % denominator
  if 2 * rest < denominator then quotient
  else if denominator < 2 * rest then quotient + 1
  else quotient + quotient % 2

/-- `n / 10 ^ places` with all its decimals. -/
def placeDigits (places n : Nat) : List Char :=
  let digits := Nat.toDigits 10 n
  let padded := List.replicate (places + 1 - digits.length) '0' ++ digits
  let split := padded.length - places
  if places = 0 then padded else padded.take split ++ '.' :: padded.drop split

theorem mem_placeDigits {places n : Nat} {c : Char} (member : c ∈ placeDigits places n) :
    c.isDigit = true ∨ c = '.' := by
  have padded (count : Nat) :
      ∀ c ∈ List.replicate count '0' ++ Nat.toDigits 10 n, c.isDigit = true := by
    intro c member
    rcases List.mem_append.mp member with zero | digit
    · rw [List.eq_of_mem_replicate zero]
      rfl
    · exact Nat.isDigit_of_mem_toDigits (by decide) (by decide) digit
  unfold placeDigits at member
  dsimp only at member
  split at member
  · exact .inl (padded _ c member)
  · rcases List.mem_append.mp member with before | after
    · exact .inl (padded _ c (List.mem_of_mem_take before))
    rcases List.mem_cons.mp after with point | behind
    · exact .inr point
    · exact .inl (padded _ c (List.mem_of_mem_drop behind))

def fixed (places : Nat) (x : Float) : String :=
  match Binary64.magnitude x with
  | .nan => "NaN"
  | .infinite => if Binary64.isNegative x then "-inf" else "inf"
  | .finite significand exponent =>
    let scaled := significand * Nat.pow 2 exponent.toNat * Nat.pow 10 places
    let n := divideToEven scaled (Nat.pow 2 (-exponent).toNat)
    let text := placeDigits places n
    String.ofList (if Binary64.isNegative x then '-' :: text else text)

/-- A positive number carries its sign too. -/
def fixedSigned (places : Nat) (x : Float) : String :=
  if 0 < x then "+" ++ fixed places x else fixed places x

end TestHistory.Decimal
