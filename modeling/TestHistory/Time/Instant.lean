import TestHistory.Time.Calendar

/-!
# Instants

An instant is a second since 1970-01-01T00:00:00Z and nanoseconds within it; in a leap second the
nanoseconds go on past a billion. Instants are ordered by second, then by nanosecond.
-/

namespace TestHistory.Time

structure Instant where
  seconds : Int
  nanos : Nat
  deriving DecidableEq, Repr

def billion : Nat := 1000000000

/-- `n` in decimal, with zeros in front up to a width. -/
def padded (width n : Nat) : List Char :=
  let digits := Nat.toDigits 10 n
  List.replicate (width - digits.length) '0' ++ digits

/-- Four digits, and a sign outside the years 0 to 9999. -/
def yearText (year : Int) : List Char :=
  if year < 0 then '-' :: padded 4 year.natAbs
  else if 9999 < year then '+' :: padded 4 year.natAbs
  else padded 4 year.natAbs

def dateText (d : Date) : List Char :=
  yearText d.year ++ '-' :: padded 2 d.month ++ '-' :: padded 2 d.day

/-- No fraction, or as many groups of three digits as it needs. -/
def fractionText (nanos : Nat) : List Char :=
  if nanos = 0 then []
  else if nanos % 1000000 = 0 then '.' :: padded 3 (nanos / 1000000)
  else if nanos % 1000 = 0 then '.' :: padded 6 (nanos / 1000)
  else '.' :: padded 9 nanos

namespace Instant

def compare (a b : Instant) : Ordering :=
  (Ord.compare a.seconds b.seconds).then (Ord.compare a.nanos b.nanos)

def ofUnix (seconds : Int) (nanos : Nat) : Instant :=
  ⟨seconds + (nanos / billion : Nat), nanos % billion⟩

def date (t : Instant) : Date :=
  Date.ofDayNumber (t.seconds / 86400)

/-- The years that the calendar covers. -/
def isRepresentable (t : Instant) : Bool :=
  minYear ≤ t.date.year && t.date.year ≤ maxYear

/-- RFC 3339 in UTC. -/
def text (t : Instant) : String :=
  let second := (t.seconds % 86400).toNat
  let leap := t.nanos / billion
  String.ofList (dateText t.date ++ 'T' :: padded 2 (second / 3600) ++
    ':' :: padded 2 (second / 60 % 60) ++ ':' :: padded 2 (second % 60 + leap) ++
    fractionText (t.nanos % billion) ++ ['+', '0', '0', ':', '0', '0'])

end Instant

end TestHistory.Time
