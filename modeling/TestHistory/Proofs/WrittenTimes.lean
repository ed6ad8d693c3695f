import TestHistory.Proofs.Numerals
import TestHistory.Time.Timestamp

/-!
# Times as they are written

An instant can be written with any offset from UTC and with a fraction of any length.
`parseInstant_text` shows that each such text is read as the instant that it writes.
-/

namespace TestHistory.Time

open Decimal (Digits isDigit ofDecimal digits_zeros digits_toDigits ofDecimal_eq)

/-! ### Numbers with leading zeros -/

theorem ofDecimal_zeros (k : Nat) (text : List Char) :
    ofDecimal (List.replicate k '0' ++ text) = ofDecimal text := by
  induction k with
  | zero => rfl
  | succ k ih =>
    rw [← ih, List.replicate_succ, List.cons_append]
    rfl

theorem ofDecimal_append_zeros (text : List Char) (k : Nat) :
    ofDecimal (text ++ List.replicate k '0') = ofDecimal text * Nat.pow 10 k := by
  induction k with
  | zero => simp
  | succ k ih =>
    rw [List.replicate_succ', ← List.append_assoc, ofDecimal, Decimal.ofDigits, List.map_append,
      List.foldl_append, ← Decimal.ofDigits, ← ofDecimal, ih]
    change ofDecimal text * Nat.pow 10 k * 10 + 0 = _
    rw [Nat.add_zero, Nat.mul_assoc]
    rfl

theorem ofDecimal_padded (width n : Nat) : ofDecimal (padded width n) = n := by
  rw [padded, ofDecimal_zeros, ofDecimal_eq]
  exact Nat.ofDigitChars_toDigits (by decide) (by decide)

theorem digits_padded (width n : Nat) : Digits (padded width n) :=
  Decimal.digits_append (digits_zeros _) (digits_toDigits n)

theorem length_padded {width n : Nat} (positive : 0 < width) (fits : n < 10 ^ width) :
    (padded width n).length = width := by
  have short := (Nat.length_toDigits_le_iff (by decide) positive).mpr fits
  rw [padded, List.length_append, List.length_replicate]
  omega

namespace Timestamp

/-- A full run of digits is read in whole, whatever follows. -/
theorem digits_append {run : List Char} (allDigits : Digits run) {least most : Nat}
    (enough : least ≤ run.length) (full : run.length = most) (rest : List Char) :
    digits least most (run ++ rest) = some (ofDecimal run, rest) := by
  subst full
  have all : run.takeWhile isDigit = run := by
    rw [← List.append_nil run, List.takeWhile_append_of_pos allDigits, List.takeWhile_nil]
  rw [digits, List.take_left, all, if_neg (Nat.not_lt.mpr enough), List.drop_left]

theorem digits_padded_append {least width n : Nat} (positive : 0 < width) (fits : n < 10 ^ width)
    (enough : least ≤ width) (rest : List Char) :
    digits least width (padded width n ++ rest) = some (n, rest) := by
  have length := length_padded positive fits
  rw [digits_append (digits_padded width n) (enough.trans length.ge) length, ofDecimal_padded]

theorem digits_two {least n : Nat} (fits : n < 100) (enough : least ≤ 2) (rest : List Char) :
    digits least 2 (padded 2 n ++ rest) = some (n, rest) :=
  digits_padded_append (by decide) fits enough rest

theorem expect_cons (c : Char) (rest : List Char) : expect c (c :: rest) = some rest :=
  if_pos rfl

end Timestamp

/-! ### Written forms -/

/-- The offset of a written time; one that is not stated is zero. -/
inductive Zone where
  | unstated
  | utc
  | east (hours minutes : Nat)
  | west (hours minutes : Nat)
  deriving DecidableEq

namespace Zone

def IsValid : Zone → Prop
  | unstated | utc => True
  | east hours minutes | west hours minutes => hours < 24 ∧ minutes < 60

/-- East of UTC. -/
def seconds : Zone → Int
  | unstated | utc => 0
  | east hours minutes => (hours * 3600 + minutes * 60 : Nat)
  | west hours minutes => -(hours * 3600 + minutes * 60 : Nat)

def text : Zone → List Char
  | unstated => []
  | utc => ['Z']
  | east hours minutes => '+' :: padded 2 hours ++ ':' :: padded 2 minutes
  | west hours minutes => '-' :: padded 2 hours ++ ':' :: padded 2 minutes

end Zone

/-- A time in RFC 3339, with as many digits after the point as one likes. -/
structure WrittenTime where
  date : Date
  hour : Nat
  minute : Nat
  second : Nat
  fraction : List Char
  zone : Zone
  date_valid : date.isValid = true
  year_short : 0 ≤ date.year ∧ date.year ≤ 9999
  hour_lt : hour < 24
  minute_lt : minute < 60
  second_lt : second < 60
  fraction_digits : Digits fraction
  zone_valid : zone.IsValid

namespace WrittenTime

def fractionText (fraction : List Char) : List Char :=
  if fraction = [] then [] else '.' :: fraction

def chars (w : WrittenTime) : List Char :=
  dateText w.date ++ 'T' :: padded 2 w.hour ++ ':' :: padded 2 w.minute ++
    ':' :: padded 2 w.second ++ fractionText w.fraction ++ w.zone.text

def text (w : WrittenTime) : String :=
  String.ofList w.chars

/-- The digits after the ninth are below a nanosecond. -/
def nanos (fraction : List Char) : Nat :=
  ofDecimal ((fraction ++ List.replicate 9 '0').take 9)

/-- Seconds count from 1970 in UTC, whatever the offset. -/
def instant (w : WrittenTime) : Instant where
  seconds := w.date.dayNumber * 86400 + (w.hour * 3600 + w.minute * 60 + w.second : Nat) -
    w.zone.seconds
  nanos := nanos w.fraction

end WrittenTime

/-! ### Reading -/

namespace Timestamp

theorem zone_text {z : Zone} (valid : z.IsValid) :
    zone z.text = if z = .unstated then none else some (z.seconds, []) := by
  cases z with
  | unstated => rfl
  | utc => rfl
  | east hours minutes =>
    obtain ⟨hoursLt, minutesLt⟩ := valid
    have readHours := digits_two (hoursLt.trans (by decide)) (le_refl 2) (':' :: padded 2 minutes)
    have readMinutes := digits_two (minutesLt.trans (by decide)) (le_refl 2) []
    rw [List.append_nil] at readMinutes
    simp [zone, Zone.text, Zone.seconds, readHours, expect_cons, readMinutes, hoursLt, minutesLt]
  | west hours minutes =>
    obtain ⟨hoursLt, minutesLt⟩ := valid
    have readHours := digits_two (hoursLt.trans (by decide)) (le_refl 2) (':' :: padded 2 minutes)
    have readMinutes := digits_two (minutesLt.trans (by decide)) (le_refl 2) []
    rw [List.append_nil] at readMinutes
    simp [zone, Zone.text, Zone.seconds, readHours, expect_cons, readMinutes, hoursLt, minutesLt]

theorem zone_stops (z : Zone) : ∀ c ∈ z.text.head?, isDigit c = false ∧ c ≠ '.' := by
  intro c first
  cases z with
  | unstated => simp [Zone.text] at first
  | utc | east hours minutes | west hours minutes =>
    simp only [Zone.text, List.cons_append, List.head?_cons, Option.mem_def, Option.some.injEq]
      at first
    subst first
    decide

theorem nanos_eq (fraction : List Char) :
    WrittenTime.nanos fraction =
      ofDecimal (fraction.take 9) * Nat.pow 10 (9 - (fraction.take 9).length) := by
  rw [WrittenTime.nanos, List.take_append, List.take_replicate, ofDecimal_append_zeros,
    List.length_take]
  congr 2
  omega

theorem fraction_text {digits : List Char} (allDigits : Digits digits) (z : Zone) :
    fraction (WrittenTime.fractionText digits ++ z.text) =
      some (WrittenTime.nanos digits, z.text) := by
  have stops := zone_stops z
  cases digits with
  | nil =>
    rw [WrittenTime.fractionText, if_pos rfl, List.nil_append]
    cases same : z.text with
    | nil => rfl
    | cons c rest =>
      rw [fraction]
      · rfl
      · rintro rest' other
        exact (stops c (by simp [same])).2 (List.cons.inj other).1
  | cons d digits =>
    -- The digits end where the offset begins.
    have ends : z.text.takeWhile isDigit = [] ∧ z.text.dropWhile isDigit = z.text := by
      cases same : z.text with
      | nil => exact ⟨rfl, rfl⟩
      | cons c rest => simp [(stops c (by simp [same])).1]
    rw [WrittenTime.fractionText, if_neg (by simp), List.cons_append, fraction, nanoseconds]
    dsimp only
    rw [List.takeWhile_append_of_pos allDigits, List.dropWhile_append_of_pos allDigits,
      ends.1, ends.2, List.append_nil, if_neg (by simp), nanos_eq]

theorem day_le (year : Int) (month : Nat) : daysInMonth year month ≤ 31 := by
  unfold daysInMonth
  repeat' split
  all_goals decide

theorem yearText_eq {year : Int} (short : 0 ≤ year ∧ year ≤ 9999) :
    yearText year = padded 4 year.natAbs := by
  rw [yearText, if_neg (by omega), if_neg (by omega)]

end Timestamp

namespace WrittenTime

variable (w : WrittenTime)

def stamp : Timestamp :=
  ⟨w.date, w.hour, w.minute, w.second, nanos w.fraction, w.zone.seconds⟩

theorem year_lt : w.date.year.natAbs < 10 ^ 4 := by
  have := w.year_short
  omega

theorem month_lt : w.date.month < 100 := by
  have bounds := w.date_valid
  simp only [Date.isValid, Bool.and_eq_true, decide_eq_true_eq] at bounds
  omega

theorem day_lt : w.date.day < 100 := by
  have bounds := w.date_valid
  have most := Timestamp.day_le w.date.year w.date.month
  simp only [Date.isValid, Bool.and_eq_true, decide_eq_true_eq] at bounds
  omega

theorem date_eq : (⟨(w.date.year.natAbs : Nat), w.date.month, w.date.day⟩ : Date) = w.date := by
  rw [Int.natAbs_of_nonneg w.year_short.1]

theorem assemble_eq :
    Timestamp.assemble w.date w.hour w.minute w.second (nanos w.fraction) w.zone.seconds =
      some w.stamp := by
  rw [Timestamp.assemble, if_pos ⟨w.date_valid, w.hour_lt, w.minute_lt, w.second_lt.le⟩,
    if_neg w.second_lt.ne, stamp]

theorem chars_eq : w.chars =
    padded 4 w.date.year.natAbs ++ '-' :: (padded 2 w.date.month ++ '-' :: (padded 2 w.date.day ++
      'T' :: (padded 2 w.hour ++ ':' :: (padded 2 w.minute ++ ':' :: (padded 2 w.second ++
        (fractionText w.fraction ++ w.zone.text)))))) := by
  simp only [chars, dateText, Timestamp.yearText_eq w.year_short, List.append_assoc,
    List.cons_append]

end WrittenTime

namespace Timestamp

/-- What follows a reader is looked at once the reader has read. -/
theorem bind_congr_left {α β : Type} {read read' : Option α} {next : α → Option β}
    (same : read = read') : read.bind next = read'.bind next :=
  same ▸ rfl

attribute [local congr] bind_congr_left

theorem ofRfc3339_chars (w : WrittenTime) :
    ofRfc3339 w.chars = if w.zone = .unstated then none else some w.stamp := by
  have readYear := digits_padded_append (by decide) w.year_lt (le_refl 4)
  have readMonth := digits_two w.month_lt (le_refl 2)
  have readDay := digits_two w.day_lt (le_refl 2)
  have readHour := digits_two (w.hour_lt.trans (by decide)) (le_refl 2)
  have readMinute := digits_two (w.minute_lt.trans (by decide)) (le_refl 2)
  have readSecond := digits_two (w.second_lt.trans (by decide)) (le_refl 2)
  rw [ofRfc3339, w.chars_eq]
  simp only [↓Option.bind_eq_bind, Option.bind_some, readYear, expect_cons, readMonth, readDay,
    Option.some_or, readHour, readMinute, readSecond, fraction_text w.fraction_digits,
    zone_text w.zone_valid]
  by_cases unstated : w.zone = .unstated
  · rw [if_pos unstated, if_pos unstated, Option.bind_none]
  · rw [if_neg unstated, if_neg unstated, Option.bind_some]
    simp only [List.isEmpty_nil, if_true, w.date_eq, w.assemble_eq]

theorem isBlank_of_isDigit {c : Char} (digit : isDigit c = true) : Text.isBlank c = false := by
  simp only [isDigit, Bool.and_eq_true, decide_eq_true_eq, Char.le_def, UInt32.le_iff_toNat_le]
    at digit
  have low : 48 ≤ c.toNat := digit.1
  have high : c.toNat ≤ 57 := digit.2
  simp only [Text.isBlank, Bool.or_eq_false_iff, Bool.and_eq_false_iff, decide_eq_false_iff_not,
    beq_eq_false_iff_ne, ne_eq]
  omega

theorem padded_cons (width n : Nat) : ∃ c rest, padded width n = c :: rest ∧ isDigit c = true := by
  have notNil : padded width n ≠ [] := by simp [padded]
  obtain ⟨c, rest, same⟩ := List.exists_cons_of_ne_nil notNil
  exact ⟨c, rest, same, digits_padded width n c (by simp [same])⟩

theorem trimStart_padded (width n : Nat) (rest : List Char) :
    Text.trimStart (padded width n ++ rest) = padded width n ++ rest := by
  obtain ⟨c, more, same, digit⟩ := padded_cons width n
  rw [same, List.cons_append, Text.trimStart,
    List.dropWhile_cons_of_neg (by simp [isBlank_of_isDigit digit])]

theorem looseNumber_padded {n : Nat} (fits : n < 100) (rest : List Char) :
    looseNumber (padded 2 n ++ rest) = some (n, rest) := by
  rw [looseNumber, trimStart_padded, digits_two fits (by decide)]

theorem looseYear_padded {n : Nat} (fits : n < 10 ^ 4) (rest : List Char) :
    looseYear (padded 4 n ++ rest) = some ((n : Int), rest) := by
  have read := digits_padded_append (by decide) fits (by decide : 1 ≤ 4) rest
  obtain ⟨c, more, same, digit⟩ := padded_cons 4 n
  rw [looseYear, trimStart_padded]
  split
  · rename_i signed
    rw [same] at signed
    obtain ⟨rfl, -⟩ := List.cons.inj signed
    exact absurd digit (by decide)
  · rename_i signed
    rw [same] at signed
    obtain ⟨rfl, -⟩ := List.cons.inj signed
    exact absurd digit (by decide)
  · rw [read, Option.map_some]

theorem ofLocal_chars (w : WrittenTime) (unstated : w.zone = .unstated) :
    ofLocal w.chars = some w.stamp := by
  have readMonth := looseNumber_padded w.month_lt
  have readDay := looseNumber_padded w.day_lt
  have readHour := looseNumber_padded (w.hour_lt.trans (by decide))
  have readMinute := looseNumber_padded (w.minute_lt.trans (by decide))
  have readSecond := looseNumber_padded (w.second_lt.trans (by decide))
  have utc : w.zone.seconds = 0 := by rw [unstated, Zone.seconds]
  have readFraction := fraction_text w.fraction_digits w.zone
  rw [unstated, Zone.text] at readFraction
  have assembled := w.assemble_eq
  rw [utc] at assembled
  rw [ofLocal, w.chars_eq, unstated]
  simp only [↓Option.bind_eq_bind, Option.bind_some, looseYear_padded w.year_lt, expect_cons,
    readMonth, readDay, readHour, readMinute, readSecond, readFraction, Zone.text,
    List.isEmpty_nil, if_true, w.date_eq, assembled]

theorem plain_of_digits {text : List Char} (allDigits : Digits text) :
    text.all (fun c => !Text.isBlank c) = true := by
  rw [List.all_eq_true]
  intro c member
  rw [isBlank_of_isDigit (allDigits c member)]
  rfl

theorem plain_chars (w : WrittenTime) : w.chars.all (fun c => !Text.isBlank c) = true := by
  have plain (width n : Nat) := plain_of_digits (digits_padded width n)
  have fraction : (WrittenTime.fractionText w.fraction).all (fun c => !Text.isBlank c) = true := by
    rw [WrittenTime.fractionText]
    split
    · rfl
    · rw [List.all_cons, plain_of_digits w.fraction_digits]
      decide
  have zone : w.zone.text.all (fun c => !Text.isBlank c) = true := by
    cases w.zone with
    | unstated | utc => decide
    | east hours minutes | west hours minutes =>
      simp only [Zone.text, List.all_append, List.all_cons, plain]
      decide
  simp only [w.chars_eq, List.all_append, List.all_cons, plain, fraction, zone]
  decide

theorem trimChars_of_plain {text : List Char} (plain : text.all (fun c => !Text.isBlank c) = true) :
    Text.trimChars text = text := by
  have kept {l : List Char} (h : l.all (fun c => !Text.isBlank c) = true) : Text.trimStart l = l := by
    cases l with
    | nil => rfl
    | cons c l =>
      have first := List.all_eq_true.mp h c List.mem_cons_self
      exact List.dropWhile_cons_of_neg (by simpa using first)
  rw [Text.trimChars, kept plain, kept (by rwa [List.all_reverse]), List.reverse_reverse]

theorem parse_text (w : WrittenTime) : parse w.text = some w.stamp := by
  rw [parse, WrittenTime.text, String.toList_ofList, trimChars_of_plain (plain_chars w),
    ofRfc3339_chars]
  by_cases unstated : w.zone = .unstated
  · rw [if_pos unstated, ofLocal_chars w unstated, Option.none_or]
  · rw [if_neg unstated, Option.some_or]

end Timestamp

theorem parseInstant_text (w : WrittenTime) : parseInstant w.text = some w.instant := by
  rw [parseInstant, Timestamp.parse_text]
  rfl

end TestHistory.Time
