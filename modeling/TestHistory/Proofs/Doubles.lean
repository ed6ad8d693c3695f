import Mathlib.Algebra.Order.Field.Power
import Mathlib.Data.Rat.Cast.Order
import Mathlib.Tactic.Ring
import TestHistory.Decimal.Binary64

/-!
# Doubles as exact numbers

`value?` is the number that a finite double stands for, with nothing rounded. `position` has the
order of these numbers (`value?_le_iff`).
-/

namespace TestHistory.Binary64

open Float.Model (UnpackedFloat)

def value? (x : Float) : Option ℚ :=
  match magnitude x with
  | .finite significand exponent =>
    let size : ℚ := significand * 2 ^ exponent
    some (if isNegative x then -size else size)
  | _ => none

theorem hiddenBit_eq : hiddenBit = 4503599627370496 := rfl

theorem hiddenBit_pos : 0 < hiddenBit := Nat.pow_pos Nat.two_pos

/-! ### Finite doubles -/

theorem isFinite_unpack {bits : BitVec 64} : (UnpackedFloat.unpack .binary64 bits).isFinite = true ↔
    @UnpackedFloat.unpackExponent .binary64 bits ≠ -1#11 := by
  unfold UnpackedFloat.unpack
  dsimp only
  by_cases largest : @UnpackedFloat.unpackExponent .binary64 bits = -1#11
  · rw [if_pos largest]
    refine iff_of_false ?_ (not_not_intro largest)
    split <;> exact Bool.false_ne_true
  · rw [if_neg largest]
    refine iff_of_true ?_ largest
    by_cases small : @UnpackedFloat.unpackExponent .binary64 bits = 0#11
    · rw [if_pos small]
      by_cases zero : @UnpackedFloat.unpackMantissa .binary64 bits = 0#52
      · rw [dif_pos zero]
        rfl
      · rw [dif_neg zero]
        rfl
    · rw [if_neg small]
      rfl

theorem toNat_unpackExponent (x : Float) :
    (@UnpackedFloat.unpackExponent .binary64 x.toBits.toBitVec).toNat =
      pattern x / hiddenBit := by
  have sign : signBit = 9223372036854775808 := rfl
  rw [UnpackedFloat.unpackExponent, BitVec.toNat_cast, BitVec.extractLsb_toNat, pattern, sign,
    hiddenBit_eq, Nat.shiftRight_eq_div_pow]
  change x.toBits.toNat / 4503599627370496 % 2048 = _
  omega

theorem isFinite_iff {x : Float} : x.isFinite = true ↔ pattern x / hiddenBit ≠ 2047 := by
  have largest : @UnpackedFloat.unpackExponent .binary64 x.toBits.toBitVec = -1#11 ↔
      pattern x / hiddenBit = 2047 := by
    rw [← toNat_unpackExponent, BitVec.toNat_eq]
    rfl
  rw [ne_eq, ← largest]
  exact isFinite_unpack

theorem isNaN_of_isFinite {x : Float} (finite : x.isFinite = true) : x.isNaN = false := by
  change x.toModel.unpack.isFinite = true at finite
  change x.toModel.unpack.isNaN = false
  cases unpacked : x.toModel.unpack with
  | notANumber => rw [unpacked] at finite; exact nomatch finite
  | infinity | zero | finite => rfl

/-! ### Units -/

/-- The size of a finite double, counted in the smallest positive one. -/
def units (pattern : Nat) : Nat :=
  if pattern / hiddenBit = 0 then pattern
  else (pattern % hiddenBit + hiddenBit) * 2 ^ (pattern / hiddenBit - 1)

theorem units_lt (a : Nat) : units a < hiddenBit * 2 ^ (a / hiddenBit) := by
  have fraction := Nat.mod_lt a hiddenBit_pos
  unfold units
  split
  · rename_i small
    rw [small, Nat.pow_zero, Nat.mul_one]
    exact Nat.lt_of_div_eq_zero hiddenBit_pos small
  · rename_i large
    obtain ⟨e, exponent⟩ := Nat.exists_eq_succ_of_ne_zero large
    rw [exponent, Nat.succ_sub_one, Nat.pow_succ', ← Nat.mul_assoc]
    exact Nat.mul_lt_mul_of_pos_right (by omega) (Nat.two_pow_pos e)

theorem le_units {a e : Nat} (exponent : e < a / hiddenBit) : hiddenBit * 2 ^ e ≤ units a := by
  rw [units, if_neg (by omega)]
  exact Nat.mul_le_mul (Nat.le_add_left ..) (Nat.pow_le_pow_right Nat.two_pos (by omega))

theorem units_strictMono : StrictMono units := by
  intro a b less
  rcases Nat.lt_or_eq_of_le (Nat.div_le_div_right (c := hiddenBit) less.le) with lower | same
  · exact (units_lt a).trans_le (le_units lower)
  · have fractions : a % hiddenBit < b % hiddenBit := by
      have splitA := Nat.div_add_mod a hiddenBit
      have splitB := Nat.div_add_mod b hiddenBit
      rw [same] at splitA
      omega
    unfold units
    rw [same]
    split
    · exact less
    · exact Nat.mul_lt_mul_of_pos_right (by omega) (Nat.two_pow_pos _)

def signed (negative : Bool) (n : Nat) : Int :=
  if negative then -n else n

theorem signed_units_le_iff (s t : Bool) (a b : Nat) :
    signed s (units a) ≤ signed t (units b) ↔ signed s a ≤ signed t b := by
  have zero : units 0 = 0 := rfl
  have le := units_strictMono.le_iff_le (a := a) (b := b)
  have ge := units_strictMono.le_iff_le (a := b) (b := a)
  have zeroA := units_strictMono.le_iff_le (a := a) (b := 0)
  have zeroB := units_strictMono.le_iff_le (a := b) (b := 0)
  rw [zero] at zeroA zeroB
  cases s <;> cases t <;> simp only [signed, if_true, if_false, Bool.false_eq_true] <;> omega

/-! ### Values -/

/-- The smallest positive double. -/
def smallest : ℚ := 2 ^ (-1074 : ℤ)

theorem smallest_pos : 0 < smallest := zpow_pos two_pos _

theorem magnitude_of_isFinite {x : Float} (finite : x.isFinite = true) :
    ∃ s e, magnitude x = .finite s e ∧ (s : ℚ) * 2 ^ e = units (pattern x) * smallest := by
  unfold magnitude units
  dsimp only
  rw [if_neg (isFinite_iff.mp finite)]
  split
  · rename_i small
    refine ⟨_, _, rfl, ?_⟩
    rw [Nat.mod_eq_of_lt (Nat.lt_of_div_eq_zero hiddenBit_pos small), smallest]
  · rename_i large
    refine ⟨_, _, rfl, ?_⟩
    generalize pattern x / hiddenBit = e at large
    have exponent : (e : ℤ) - 1075 = ((e - 1 : ℕ) : ℤ) + (-1074) := by omega
    rw [exponent, zpow_add₀ two_ne_zero, zpow_natCast, ← smallest]
    push_cast
    ring

theorem value?_of_isFinite {x : Float} (finite : x.isFinite = true) :
    value? x = some (signed (isNegative x) (units (pattern x)) * smallest) := by
  obtain ⟨s, e, same, size⟩ := magnitude_of_isFinite finite
  unfold value? signed
  rw [same]
  dsimp only
  rw [size]
  split
  · push_cast
    rw [neg_mul]
  · push_cast
    rfl

theorem isFinite_of_value? {x : Float} {q : ℚ} (value : value? x = some q) : x.isFinite = true := by
  rw [isFinite_iff]
  intro largest
  unfold value? magnitude at value
  by_cases fraction : pattern x % hiddenBit = 0
  · simp [largest, fraction] at value
  · simp [largest, fraction] at value

theorem value?_le_iff {x y : Float} {p q : ℚ} (valueX : value? x = some p)
    (valueY : value? y = some q) : p ≤ q ↔ position x ≤ position y := by
  rw [value?_of_isFinite (isFinite_of_value? valueX), Option.some_inj] at valueX
  rw [value?_of_isFinite (isFinite_of_value? valueY), Option.some_inj] at valueY
  rw [← valueX, ← valueY, mul_le_mul_iff_left₀ smallest_pos, Int.cast_le, signed_units_le_iff]
  rfl

end TestHistory.Binary64
