import Mathlib.Data.Nat.Digits.Defs
import TestHistory.Json.Numeral

/-!
# Numbers are written as JSON numerals

`Numeral.ofWord?` reads back every numeral that follows the grammar, and the text of every number
follows it: of every integer, and of every double at every magnitude. The doubles that are no
numbers are written `null`.
-/

namespace TestHistory

/-! ### Digits -/

namespace Decimal

/-- A run of digits, perhaps empty. -/
def Digits (text : List Char) : Prop :=
  ∀ c ∈ text, isDigit c

theorem digits_append {front back : List Char} (first : Digits front) (second : Digits back) :
    Digits (front ++ back) := by
  intro c member
  rcases List.mem_append.mp member with before | after
  · exact first c before
  · exact second c after

theorem digits_zeros (n : Nat) : Digits (List.replicate n '0') := by
  intro c member
  rw [List.eq_of_mem_replicate member]
  decide

theorem digits_toDigits (n : Nat) : Digits (Nat.toDigits 10 n) := by
  intro c member
  have digit := Nat.isDigit_of_mem_toDigits (by decide) (by decide) member
  exact digit

theorem Digits.take {text : List Char} (h : Digits text) (n : Nat) : Digits (text.take n) :=
  fun c member => h c (List.mem_of_mem_take member)

theorem Digits.drop {text : List Char} (h : Digits text) (n : Nat) : Digits (text.drop n) :=
  fun c member => h c (List.mem_of_mem_drop member)

theorem ofDecimal_eq (text : List Char) : ofDecimal text = Nat.ofDigitChars 10 text 0 := by
  rw [ofDecimal, Decimal.ofDigits, List.foldl_map, Nat.ofDigitChars]
  congr 1
  funext n c
  rw [Nat.mul_comm]
  rfl

/-- A positive number does not begin with a zero. -/
theorem toDigits_head {n : Nat} (positive : 0 < n) :
    ∃ c rest, Nat.toDigits 10 n = c :: rest ∧ c ≠ '0' := by
  induction n using Nat.strongRecOn with
  | ind n ih =>
    by_cases small : n < 10
    · refine ⟨n.digitChar, [], Nat.toDigits_of_lt_base small, ?_⟩
      intro zero
      exact positive.ne' (Nat.digitChar_eq_zero.mp zero)
    · obtain ⟨c, rest, same, nonzero⟩ := ih (n / 10) (by omega) (by omega)
      refine ⟨c, rest ++ [(n % 10).digitChar], ?_, nonzero⟩
      rw [Nat.toDigits_of_base_le (by decide) (by omega), same, List.cons_append]

end Decimal

/-! ### Numerals -/

namespace Json

open Decimal (Digits isDigit digits_append digits_zeros digits_toDigits toDigits_head)

namespace Numeral

def signChars (negative : Bool) : List Char :=
  if negative then ['-'] else []

def fractionChars : Option (List Char) → List Char
  | none => []
  | some digits => '.' :: digits

/-- The exponent always shows its sign. -/
def exponentChars : Option (Bool × List Char) → List Char
  | none => []
  | some (negative, digits) => 'e' :: (if negative then '-' else '+') :: digits

def chars (n : Numeral) : List Char :=
  signChars n.negative ++ (n.whole ++ (fractionChars n.fraction ++ exponentChars n.exponent))

structure WellFormed (n : Numeral) : Prop where
  whole : isWhole n.whole
  digits : Digits n.whole
  fraction : ∀ text ∈ n.fraction, text ≠ [] ∧ Digits text
  exponent : ∀ power ∈ n.exponent, power.2 ≠ [] ∧ Digits power.2

theorem ofExponent?_exponentChars {exponent : Option (Bool × List Char)}
    (digits : ∀ power ∈ exponent, power.2 ≠ [] ∧ Digits power.2) :
    ofExponent? (exponentChars exponent) = some exponent := by
  match exponent with
  | none => rfl
  | some (negative, text) =>
    obtain ⟨some, digits⟩ := digits _ rfl
    have all : text.all isDigit = true := List.all_eq_true.mpr digits
    cases negative <;> simp [exponentChars, ofExponent?, some, all]

/-- What follows a run of digits does not go on with digits. -/
theorem span_digits {text rest : List Char} (digits : Digits text)
    (stops : ∀ c more, rest = c :: more → isDigit c = false) :
    (text ++ rest).takeWhile isDigit = text ∧ (text ++ rest).dropWhile isDigit = rest := by
  rw [List.takeWhile_append_of_pos digits, List.dropWhile_append_of_pos digits]
  match rest with
  | [] => simp
  | c :: more => simp [stops c more rfl]

theorem exponentChars_stops (exponent : Option (Bool × List Char)) :
    ∀ c more, exponentChars exponent = c :: more → isDigit c = false := by
  intro c more same
  match exponent with
  | none => exact nomatch same
  | some (negative, text) =>
    obtain ⟨rfl, -⟩ := List.cons.inj same
    decide

theorem fractionChars_stops (fraction : Option (List Char)) (exponent : Option (Bool × List Char)) :
    ∀ c more, fractionChars fraction ++ exponentChars exponent = c :: more → isDigit c = false := by
  intro c more same
  match fraction with
  | none => exact exponentChars_stops exponent c more same
  | some text =>
    obtain ⟨rfl, -⟩ := List.cons.inj same
    decide

/-- What `ofWord?` does once the sign is off. -/
def ofUnsigned? (negative : Bool) (text : List Char) : Option Numeral :=
  let whole := text.takeWhile isDigit
  if isWhole whole then
    match text.dropWhile isDigit with
    | '.' :: rest =>
      let fraction := rest.takeWhile isDigit
      if fraction.isEmpty then none
      else (ofExponent? (rest.dropWhile isDigit)).map fun exponent =>
        ⟨negative, whole, some fraction, exponent⟩
    | rest => (ofExponent? rest).map fun exponent => ⟨negative, whole, none, exponent⟩
  else none

theorem ofWord?_sign (negative : Bool) {c : Char} (plain : c ≠ '-') (rest : List Char) :
    ofWord? (signChars negative ++ c :: rest) = ofUnsigned? negative (c :: rest) := by
  cases negative with
  | true => rfl
  | false =>
    change ofWord? (c :: rest) = _
    unfold ofWord?
    split
    rename_i same
    split at same
    · rename_i minus
      exact absurd (List.cons.inj minus).1 plain
    · obtain ⟨rfl, rfl⟩ := Prod.mk.inj same
      rfl

theorem ofUnsigned?_chars (negative : Bool) {whole : List Char} {fraction : Option (List Char)}
    {exponent : Option (Bool × List Char)} (h : WellFormed ⟨negative, whole, fraction, exponent⟩) :
    ofUnsigned? negative (whole ++ (fractionChars fraction ++ exponentChars exponent)) =
      some ⟨negative, whole, fraction, exponent⟩ := by
  obtain ⟨taken, left⟩ := span_digits h.digits (fractionChars_stops fraction exponent)
  have powers := ofExponent?_exponentChars h.exponent
  unfold ofUnsigned?
  dsimp only at taken left powers ⊢
  rw [taken, left, if_pos h.whole]
  match fraction with
  | none =>
    match exponent with
    | none => rfl
    | some (sign, text) =>
      rw [exponentChars] at powers
      simp [fractionChars, exponentChars, powers]
  | some text =>
    obtain ⟨some, digits⟩ := h.fraction _ rfl
    obtain ⟨takenFraction, leftExponent⟩ := span_digits digits (exponentChars_stops exponent)
    have kept : ¬ text.isEmpty := by simpa using some
    simp [fractionChars, takenFraction, leftExponent, kept, powers]

theorem whole_head {whole : List Char} (digits : Digits whole) (h : isWhole whole) :
    ∃ c rest, whole = c :: rest ∧ c ≠ '-' := by
  match whole with
  | [] => exact nomatch h
  | c :: rest =>
    refine ⟨c, rest, rfl, ?_⟩
    rintro rfl
    exact absurd (digits '-' List.mem_cons_self) (by decide)

/-- Every numeral of the grammar is read back. -/
theorem ofWord?_chars {n : Numeral} (h : n.WellFormed) : ofWord? n.chars = some n := by
  obtain ⟨c, rest, same, plain⟩ := whole_head h.digits h.whole
  have unsigned := ofUnsigned?_chars n.negative h
  rw [same, List.cons_append] at unsigned
  rw [chars, same, List.cons_append, ofWord?_sign _ plain, unsigned, ← same]

/-! ### The shapes that numbers are written in -/

theorem isWhole_of_head {c : Char} (nonzero : c ≠ '0') (rest : List Char) : isWhole (c :: rest) := by
  unfold isWhole
  split
  · contradiction
  · rename_i same
    exact absurd (List.cons.inj same).1 nonzero
  · rfl

theorem wellFormed_point {whole fraction : List Char} (first : isWhole whole)
    (digits : Digits whole) (nonempty : fraction ≠ []) (decimals : Digits fraction) :
    WellFormed ⟨false, whole, some fraction, none⟩ where
  whole := first
  digits := digits
  fraction _ same := Option.some.inj same ▸ ⟨nonempty, decimals⟩
  exponent := nofun

theorem wellFormed_exponent {c : Char} {rest : List Char} (nonzero : c ≠ '0')
    (digits : Digits (c :: rest)) (negative : Bool) (power : Nat) :
    WellFormed ⟨false, [c], if rest.isEmpty then none else some rest,
      some (negative, Nat.toDigits 10 power)⟩ where
  whole := isWhole_of_head nonzero []
  digits := digits.take 1
  fraction := by
    intro text same
    split at same
    · exact nomatch same
    · rename_i kept
      obtain rfl := Option.some.inj same
      exact ⟨by simpa using kept, digits.drop 1⟩
  exponent _ same := Option.some.inj same ▸ ⟨Nat.toDigits_ne_nil, digits_toDigits power⟩

theorem WellFormed.withSign {n : Numeral} (h : n.WellFormed) (negative : Bool) :
    WellFormed { n with negative } :=
  ⟨h.whole, h.digits, h.fraction, h.exponent⟩

theorem chars_point (whole fraction : List Char) :
    chars ⟨false, whole, some fraction, none⟩ = whole ++ '.' :: fraction := by
  simp [chars, signChars, fractionChars, exponentChars]

theorem chars_exponent (c : Char) (rest : List Char) (negative : Bool) (power : List Char) :
    chars ⟨false, [c], if rest.isEmpty then none else some rest, some (negative, power)⟩ =
      (match c :: rest with
        | [] => []
        | [c] => [c]
        | c :: rest => c :: '.' :: rest) ++
        'e' :: ((if negative then ['-'] else ['+']) ++ power) := by
  cases rest <;> cases negative <;> rfl

/-- A shortest decimal is a numeral wherever its point stands. -/
theorem exists_of_render (d : Decimal.Scaled) :
    ∃ n : Numeral, n.WellFormed ∧ n.negative = false ∧ d.render floatStyle = n.chars := by
  unfold Decimal.Scaled.render
  by_cases zero : d.digits = 0
  · rw [if_pos zero]
    exact ⟨_, wellFormed_point rfl (digits_zeros 1) (List.cons_ne_nil '0' []) (digits_zeros 1), rfl, rfl⟩
  have digits := digits_toDigits d.digits
  obtain ⟨c, rest, same, nonzero⟩ := toDigits_head (Nat.pos_of_ne_zero zero)
  rw [if_neg zero]
  dsimp only
  rw [same] at digits ⊢
  generalize point : ((c :: rest).length : Int) + d.exponent = place
  split
  · -- the point stands before the digits
    refine ⟨_, wellFormed_point rfl (digits_zeros 1) ?_
      (digits_append (digits_zeros (-place).toNat) digits), rfl, ?_⟩
    · simp
    · rw [chars_point]
      rfl
  split
  · split
    · -- the point stands behind the digits
      refine ⟨_, wellFormed_point (isWhole_of_head nonzero _)
        (digits_append digits (digits_zeros d.exponent.toNat)) (List.cons_ne_nil '0' [])
        (digits_zeros 1), rfl, ?_⟩
      rw [chars_point]
      rfl
    · -- the point stands among the digits
      obtain ⟨before, same⟩ : ∃ before, place.toNat = before + 1 :=
        ⟨_, (Nat.succ_pred_eq_of_pos (by omega)).symm⟩
      rw [same]
      refine ⟨_, wellFormed_point (isWhole_of_head nonzero (rest.take before))
        (digits.take (before + 1)) ?_ (digits.drop (before + 1)), rfl, (chars_point _ _).symm⟩
      intro none
      have short := List.drop_eq_nil_iff.mp none
      omega
  · -- the exponent carries the point
    refine ⟨_, wellFormed_exponent nonzero digits (place - 1 < 0) (place - 1).natAbs, rfl, ?_⟩
    rw [chars_exponent]
    cases rest <;> simp [floatStyle]

end Numeral

/-- The numeral of an integer. -/
def integerNumeral (n : Int) : Numeral :=
  ⟨n < 0, Nat.toDigits 10 n.natAbs, none, none⟩

theorem wellFormed_integerNumeral (n : Int) : (integerNumeral n).WellFormed := by
  refine ⟨?_, digits_toDigits _, nofun, nofun⟩
  dsimp only [integerNumeral]
  rcases Nat.eq_zero_or_pos n.natAbs with zero | positive
  · rw [zero]
    rfl
  · obtain ⟨c, rest, same, nonzero⟩ := toDigits_head positive
    rw [same]
    exact Numeral.isWhole_of_head nonzero rest

theorem integerText_eq (n : Int) : integerText n = (integerNumeral n).chars := by
  by_cases negative : n < 0 <;>
    simp [integerNumeral, integerText, Numeral.chars, Numeral.signChars, Numeral.fractionChars,
      Numeral.exponentChars, negative]

/-- Integers of 64 bits, with or without sign, keep their value. -/
theorem number?_integerNumeral {n : Int} (low : -2 ^ 63 ≤ n) (high : n < 2 ^ 64) :
    (integerNumeral n).number? = some (.int n) := by
  have digits : Decimal.ofDecimal (Nat.toDigits 10 n.natAbs) = n.natAbs := by
    rw [Decimal.ofDecimal_eq, Nat.ofDigitChars_toDigits (by decide) (by decide)]
  have exact : (integerNumeral n).int? = some n := by
    have bound : Nat.pow 2 63 = 2 ^ 63 := rfl
    have bound64 : Decimal.bound64 = 2 ^ 64 := rfl
    simp only [Numeral.int?, integerNumeral, digits, Option.isSome_none, Bool.false_eq_true, or_self,
      if_false, decide_eq_true_eq, bound, bound64]
    split_ifs with negative inRange inRange
    · refine congrArg some ?_
      omega
    · omega
    · refine congrArg some ?_
      omega
    · omega
  rw [Numeral.number?, exact]

theorem exists_of_floatText (x : Float) :
    Decimal.floatText floatStyle x = "null" ∨ ∃ numeral : Numeral, numeral.WellFormed ∧
      (Decimal.floatText floatStyle x).toList = numeral.chars := by
  unfold Decimal.floatText
  cases Binary64.magnitude x with
  | nan => exact .inl rfl
  | infinite => exact .inl (ite_self _)
  | finite significand exponent =>
    obtain ⟨numeral, wellFormed, unsigned, same⟩ :=
      Numeral.exists_of_render (Decimal.shortest significand exponent)
    refine .inr ⟨_, wellFormed.withSign (Binary64.isNegative x), ?_⟩
    dsimp only
    rw [same, String.toList_ofList]
    cases Binary64.isNegative x <;> simp [Numeral.chars, unsigned, Numeral.signChars]

/-- Every number is written as a numeral or, when it is a double that is no number, as `null`. -/
theorem Number.text_eq (n : Number) :
    n.text = ['n', 'u', 'l', 'l'] ∨
      ∃ numeral : Numeral, numeral.WellFormed ∧ n.text = numeral.chars := by
  cases n with
  | int n => exact .inr ⟨_, wellFormed_integerNumeral n, integerText_eq n⟩
  | float x =>
    rcases exists_of_floatText x with null | numeral
    · exact .inl (congrArg String.toList null)
    · exact .inr numeral

/-! ### Words -/

/-- The characters of numbers, `null`, `true` and `false`. -/
def isWordChar (c : Char) : Bool :=
  c.isAlphanum || c = '-' || c = '+' || c = '.'

structure IsWord (word : List Char) : Prop where
  nonempty : word ≠ []
  chars : ∀ c ∈ word, isWordChar c

theorem isWord_of_all {c : Char} {word : List Char} (chars : (c :: word).all isWordChar) :
    IsWord (c :: word) :=
  ⟨List.cons_ne_nil c word, List.all_eq_true.mp chars⟩

theorem isWordChar_of_isDigit {c : Char} (digit : isDigit c) : isWordChar c := by
  have : c.isDigit = true := digit
  simp [isWordChar, Char.isAlphanum, this]

theorem isWord_numeral {n : Numeral} (h : n.WellFormed) : IsWord n.chars := by
  obtain ⟨c, rest, same, -⟩ := Numeral.whole_head h.digits h.whole
  refine ⟨by simp [Numeral.chars, same], fun d member => ?_⟩
  simp only [Numeral.chars, List.mem_append] at member
  rcases member with sign | whole | fraction | exponent
  · unfold Numeral.signChars at sign
    split at sign
    · obtain rfl := List.mem_singleton.mp sign
      decide
    · exact nomatch sign
  · exact isWordChar_of_isDigit (h.digits d whole)
  · match shown : n.fraction with
    | none => exact nomatch shown ▸ fraction
    | some text =>
      rw [shown] at fraction
      rcases List.mem_cons.mp fraction with rfl | inside
      · decide
      · exact isWordChar_of_isDigit ((h.fraction text shown).2 d inside)
  · match shown : n.exponent with
    | none => exact nomatch shown ▸ exponent
    | some (negative, text) =>
      rw [shown] at exponent
      rcases List.mem_cons.mp exponent with rfl | inside
      · decide
      rcases List.mem_cons.mp inside with rfl | inside
      · cases negative <;> decide
      · exact isWordChar_of_isDigit ((h.exponent _ shown).2 d inside)

theorem Number.isWord_text (n : Number) : IsWord n.text := by
  rcases n.text_eq with null | ⟨numeral, wellFormed, same⟩
  · rw [null]
    exact isWord_of_all rfl
  · rw [same]
    exact isWord_numeral wellFormed

end Json

end TestHistory
