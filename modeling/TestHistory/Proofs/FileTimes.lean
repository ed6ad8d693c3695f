import Mathlib.Data.List.Permutation
import TestHistory.Proofs.Calendar
import TestHistory.Proofs.RunReading
import TestHistory.Proofs.ScanOrder

/-!
# Runs without a start of their own

A run whose metadata states no start has the time in its place at which the metadata was written.
The text of that time is read as the time itself, so such runs are ordered by it
(`fileTimes_order`).
-/

namespace TestHistory

namespace Time

/-- A time of the years 0 to 9999, to the nanosecond. -/
structure Instant.IsFileTime (t : Instant) : Prop where
  first : (Date.mk 0 1 1).dayNumber * 86400 ≤ t.seconds
  last : t.seconds < (Date.mk 10000 1 1).dayNumber * 86400
  nanos : t.nanos < billion

/-! ### The text of a time -/

/-- The digits after the point. -/
def fractionDigits (nanos : Nat) : List Char :=
  if nanos = 0 then []
  else if nanos % 1000000 = 0 then padded 3 (nanos / 1000000)
  else if nanos % 1000 = 0 then padded 6 (nanos / 1000)
  else padded 9 nanos

theorem digits_fractionDigits (nanos : Nat) : Decimal.Digits (fractionDigits nanos) := by
  unfold fractionDigits
  split
  · exact fun c member => nomatch member
  · split
    · exact digits_padded 3 _
    · split
      · exact digits_padded 6 _
      · exact digits_padded 9 _

theorem padded_ne_nil (width n : Nat) : padded width n ≠ [] := by
  obtain ⟨c, rest, same, -⟩ := Timestamp.padded_cons width n
  rw [same]
  exact List.cons_ne_nil c rest

theorem fractionText_digits (nanos : Nat) :
    WrittenTime.fractionText (fractionDigits nanos) = fractionText nanos := by
  unfold WrittenTime.fractionText fractionDigits fractionText
  split
  · rfl
  · split
    · rw [if_neg (padded_ne_nil 3 _)]
    · split
      · rw [if_neg (padded_ne_nil 6 _)]
      · rw [if_neg (padded_ne_nil 9 _)]

theorem nanos_padded {width n : Nat} (positive : 0 < width) (fits : n < 10 ^ width)
    (short : width ≤ 9) : WrittenTime.nanos (padded width n) = n * Nat.pow 10 (9 - width) := by
  have length := length_padded positive fits
  rw [Timestamp.nanos_eq, List.take_of_length_le (length.trans_le short), ofDecimal_padded, length]

/-- Dropping zeros by threes loses no nanosecond. -/
theorem nanos_fractionDigits {nanos : Nat} (below : nanos < billion) :
    WrittenTime.nanos (fractionDigits nanos) = nanos := by
  unfold billion at below
  unfold fractionDigits
  split
  · rename_i zero
    subst zero
    decide
  · split
    · rename_i millis
      have whole : nanos / 1000000 * 1000000 = nanos := by omega
      rw [nanos_padded (by decide) (by omega) (by decide)]
      exact whole
    · split
      · rename_i micros
        have whole : nanos / 1000 * 1000 = nanos := by omega
        rw [nanos_padded (by decide) (by omega) (by decide)]
        exact whole
      · rw [nanos_padded (by decide) (by omega) (by decide)]
        exact Nat.mul_one nanos

namespace Instant

variable {t : Instant}

theorem IsFileTime.days (inRange : t.IsFileTime) : (Date.mk 0 1 1).dayNumber ≤ t.seconds / 86400 ∧
    t.seconds / 86400 < (Date.mk 10000 1 1).dayNumber := by
  obtain ⟨first, last, -⟩ := inRange
  omega

/-- The calendar covers more than the years of four digits. -/
theorem IsFileTime.isRepresentable (inRange : t.IsFileTime) : t.isRepresentable := by
  have ⟨first, last⟩ := Date.year_ofDayNumber inRange.days.1 inRange.days.2
  rw [Instant.isRepresentable, Bool.and_eq_true, decide_eq_true_eq, decide_eq_true_eq, date, minYear,
    maxYear]
  omega

/-- A time as it is written in UTC. -/
def IsFileTime.written (inRange : t.IsFileTime) : WrittenTime where
  date := t.date
  hour := (t.seconds % 86400).toNat / 3600
  minute := (t.seconds % 86400).toNat / 60 % 60
  second := (t.seconds % 86400).toNat % 60
  fraction := fractionDigits t.nanos
  zone := .east 0 0
  year_short := Date.year_ofDayNumber inRange.days.1 inRange.days.2
  date_valid := Date.isValid_of_fits (Date.fits_ofDayNumber _)
    (Date.year_ofDayNumber inRange.days.1 inRange.days.2)
  hour_lt := by omega
  minute_lt := by omega
  second_lt := by omega
  fraction_digits := digits_fractionDigits t.nanos
  zone_valid := ⟨by decide, by decide⟩

theorem IsFileTime.text_written (inRange : t.IsFileTime) : inRange.written.text = t.text := by
  have noLeap : t.nanos / billion = 0 := Nat.div_eq_of_lt inRange.nanos
  have rest : t.nanos % billion = t.nanos := Nat.mod_eq_of_lt inRange.nanos
  have utc : (Zone.east 0 0).text = ['+', '0', '0', ':', '0', '0'] := by decide
  simp only [WrittenTime.text, WrittenTime.chars, IsFileTime.written, text, noLeap, rest, utc,
    fractionText_digits, Nat.add_zero]

theorem IsFileTime.instant_written (inRange : t.IsFileTime) : inRange.written.instant = t := by
  have date : t.date.dayNumber = t.seconds / 86400 := Date.dayNumber_ofDayNumber _
  have utc : (Zone.east 0 0).seconds = 0 := rfl
  have nanos := nanos_fractionDigits inRange.nanos
  have seconds : t.date.dayNumber * 86400 + ((t.seconds % 86400).toNat / 3600 * 3600 +
      (t.seconds % 86400).toNat / 60 % 60 * 60 + (t.seconds % 86400).toNat % 60 : Nat) =
        t.seconds := by
    rw [date]
    omega
  simp only [WrittenTime.instant, IsFileTime.written, utc, nanos, seconds, Int.sub_zero]

theorem IsFileTime.parseInstant_text (inRange : t.IsFileTime) : parseInstant t.text = some t := by
  have read := Time.parseInstant_text inRange.written
  rwa [inRange.text_written, inRange.instant_written] at read

end Instant

end Time

/-! ### Runs in order -/

/-- The run of a directory whose metadata states no start and was written at a time. The scan may
have renamed it. -/
def Run.WrittenAt (fs : FileSystem) (run : Run) (t : Time.Instant) : Prop :=
  ∃ dir root options read metadata, (readRun fs dir root options).value = .ok read ∧
    Run.IsOf dir read run ∧ readMetadata fs dir = .ok metadata ∧
    (∀ start ∈ metadata.startTime, Text.isBlankText start = true) ∧
    fs.modified? (runMetadataPath dir) = some t ∧ t.IsFileTime

/-- Of two runs that are dated by their files the later one comes first; those of one time stay in
their order. -/
def OrdersByFile (fs : FileSystem) (runs : List Run) : Prop :=
  ∀ a b ta tb, [a, b].Sublist (Run.sortNewestFirst runs) → a.WrittenAt fs ta → b.WrittenAt fs tb →
    tb.Before ta ∨ ta = tb ∧ [a, b].Sublist runs

section

variable {fs : FileSystem} {run : Run} {t : Time.Instant}

theorem startTimeOf_unstated {dir : Path} {metadata : Metadata}
    (unstated : ∀ start ∈ metadata.startTime, Text.isBlankText start = true)
    (modified : fs.modified? (runMetadataPath dir) = some t) :
    startTimeOf fs dir metadata = t.text := by
  have noStart : metadata.startTime.filter (fun start => !Text.isBlankText start) = none := by
    rw [Option.filter_eq_none_iff]
    intro start stated
    rw [unstated start stated]
    decide
  rw [startTimeOf, noStart, modified]
  rfl

theorem Run.WrittenAt.startTime (written : run.WrittenAt fs t) : run.startTime = t.text := by
  obtain ⟨dir, root, options, read, metadata, ran, isOf, decoded, unstated, modified, -⟩ := written
  have start : read.startTime = t.text := by
    obtain ⟨metadata', report, decoded', -, rfl⟩ := readRun_eq_ok_iff.mp ran
    obtain rfl := Except.ok.inj (decoded.symm.trans decoded')
    exact startTimeOf_unstated unstated modified
  rcases isOf with rfl | rfl
  · exact start
  · exact start

theorem Run.WrittenAt.startedAt (written : run.WrittenAt fs t) : run.startedAt = some t := by
  have start := written.startTime
  obtain ⟨-, -, -, -, -, -, -, -, -, -, inRange⟩ := written
  rw [Run.startedAt, start, inRange.parseInstant_text]

theorem ordersByFile (fs : FileSystem) (runs : List Run) : OrdersByFile fs runs := by
  intro a b ta tb pair writtenA writtenB
  have placed : runs.Pairwise fun a b => [a, b].Sublist runs :=
    List.pairwise_iff_forall_sublist.mpr id
  have order := List.pairwise_iff_forall_sublist.mp
    (Sorting.pairwise_mergeSort Run.byKey_newestFirst placed) pair
  have startA := writtenA.startedAt
  have startB := writtenB.startedAt
  rcases order with newer | ⟨same, before⟩
  · have newer : a.NewerThan b := Run.newerThan_iff.mpr newer
    rw [Run.NewerThan, startA, startB] at newer
    rcases newer with before | ⟨rfl, texts⟩
    · exact Or.inl before
    · rw [writtenA.startTime, writtenB.startTime] at texts
      exact absurd texts (List.lt_irrefl _)
  · have starts : a.startTime = b.startTime := Run.key_inj.mp (OrderDual.toDual.injective same)
    have times : some ta = some tb := by
      rw [← startA, ← startB, Run.startedAt, starts, Run.startedAt]
    exact Or.inr ⟨Option.some.inj times, before⟩

end

/-- The time of a file is read back from its text, and runs without a start go by it. -/
theorem fileTimes_order (fs : FileSystem) :
    (∀ t : Time.Instant, t.IsFileTime → Time.parseInstant t.text = some t) ∧
      ∀ runs, OrdersByFile fs runs :=
  ⟨fun _ inRange => inRange.parseInstant_text, ordersByFile fs⟩

namespace Undated

def run (modified : Time.Instant) : Node :=
  .directory [
    ("artifacts", .directory [("metadata.json", .file "\x7b\x7d".toUTF8 modified)]),
    ("reports", .directory [("report.json", .file "[]".toUTF8 ⟨0, 0⟩)])]

/-- The first nanosecond of the last second of a leap day. -/
def earlier : Time.Instant :=
  ⟨(Time.Date.mk 1600 2 29).dayNumber * 86400 + 86399, 1⟩

def later : Time.Instant :=
  ⟨(Time.Date.mk 1600 2 29).dayNumber * 86400 + 86399, 500000000⟩

def tree : FileSystem :=
  ⟨.directory [("run-a", run earlier), ("run-b", run later)], []⟩

theorem exists_writtenAt (dir : Path) {t : Time.Instant}
    (read : (readRun tree dir ⟨"."⟩ .default).value.isOk = true)
    (unstated : (readMetadata tree dir).toOption.bind (·.startTime) = none)
    (modified : tree.modified? (runMetadataPath dir) = some t) (inRange : t.IsFileTime) :
    ∃ run : Run, run.WrittenAt tree t := by
  cases ran : (readRun tree dir ⟨"."⟩ .default).value with
  | error e =>
    rw [ran] at read
    exact nomatch read
  | ok run =>
    obtain ⟨metadata, report, decoded, -, -⟩ := readRun_eq_ok_iff.mp ran
    have noStart : metadata.startTime = none := by rwa [decoded] at unstated
    refine ⟨run, dir, ⟨"."⟩, .default, run, metadata, ran, Or.inl rfl, decoded, ?_, modified,
      inRange⟩
    rw [noStart]
    exact fun start stated => nomatch stated

theorem order_undated : earlier.IsFileTime ∧ Time.parseInstant earlier.text = some earlier ∧
    ∃ a b : Run, a.WrittenAt tree earlier ∧ b.WrittenAt tree later ∧
      Run.sortNewestFirst [a, b] = [b, a] := by
  have inRange : earlier.IsFileTime := ⟨by decide, by decide, by decide⟩
  have inRange' : later.IsFileTime := ⟨by decide, by decide, by decide⟩
  obtain ⟨a, writtenA⟩ := exists_writtenAt ⟨"run-a"⟩ (by decide +kernel)
    (by decide +kernel) (by decide +kernel) inRange
  obtain ⟨b, writtenB⟩ := exists_writtenAt ⟨"run-b"⟩ (by decide +kernel)
    (by decide +kernel) (by decide +kernel) inRange'
  refine ⟨inRange, (fileTimes_order tree).1 earlier inRange, a, b, writtenA, writtenB, ?_⟩
  have apart : ¬ (later.Before earlier ∨ earlier = later ∧ [a, b].Sublist [a, b]) := by
    rintro (before | ⟨same, -⟩)
    · exact absurd before (by unfold Time.Instant.Before; decide)
    · exact absurd same (by decide)
  rcases List.perm_pair.mp (Run.sortNewestFirst_perm [a, b]) with kept | turned
  · have inPlace : [a, b].Sublist (Run.sortNewestFirst [a, b]) := by rw [kept]
    exact absurd ((fileTimes_order tree).2 [a, b] a b earlier later inPlace writtenA writtenB) apart
  · exact turned

end Undated

end TestHistory
