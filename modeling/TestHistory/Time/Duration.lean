import TestHistory.Decimal.Binary64

/-!
# Durations
-/

namespace TestHistory.Time

/-- Whole hours, minutes and seconds, beginning with the largest that is not zero. -/
def wholeDuration (whole : Nat) : String :=
  let hours := whole / 3600
  let minutes := whole % 3600 / 60
  let seconds := whole % 60
  if 0 < hours then s!"{hours}h {minutes}m {seconds}s"
  else if 0 < minutes then s!"{minutes}m {seconds}s"
  else s!"{seconds}s"

/-- A number of seconds; only a positive finite one has a duration. -/
def duration (seconds : Float) : String :=
  if seconds.isFinite ∧ 0 < seconds then wholeDuration (Binary64.wholePart seconds) else "N/A"

end TestHistory.Time
