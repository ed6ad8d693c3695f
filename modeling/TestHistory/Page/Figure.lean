import TestHistory.Analysis.Summary
import TestHistory.Page.Html
import TestHistory.Time.Duration

/-!
# Figures of the page

Numbers, rates, durations and the words for them. None of their characters means anything in
markup.
-/

namespace TestHistory.Page.Figure

/-! ### Numbers -/

theorem escapeChar_of_isDigit {c : Char} (digit : c.isDigit) : escapeChar c = [c] := by
  have differs (d : Char) (other : d.isDigit = false) : c ≠ d := by
    rintro rfl
    exact absurd (other.symm.trans digit) (by decide)
  simp [escapeChar, differs '&' rfl, differs '<' rfl, differs '>' rfl, differs '"' rfl,
    differs '\'' rfl]

theorem plain_toDigits (n : Nat) : ∀ c ∈ Nat.toDigits 10 n, escapeChar c = [c] :=
  fun _ member =>
    escapeChar_of_isDigit (Nat.isDigit_of_mem_toDigits (by decide) (by decide) member)

theorem escape_toString (n : Nat) : escape (toString n) = toString n :=
  escape_of_plain (plain_toDigits n)

def ofNat (n : Nat) : Figure :=
  ⟨toString n, escape_toString n⟩

theorem plain_placeDigits (places n : Nat) :
    ∀ c ∈ Decimal.placeDigits places n, escapeChar c = [c] := by
  intro c member
  rcases Decimal.mem_placeDigits member with digit | rfl
  · exact escapeChar_of_isDigit digit
  · rfl

theorem escape_fixed (places : Nat) (x : Float) :
    escape (Decimal.fixed places x) = Decimal.fixed places x := by
  unfold Decimal.fixed
  split
  · rfl
  · split <;> rfl
  · dsimp only
    apply escape_of_plain
    split
    · intro c member
      rcases List.mem_cons.mp member with rfl | digit
      · rfl
      · exact plain_placeDigits _ _ c digit
    · exact plain_placeDigits _ _

/-- A number with a fixed number of decimals. -/
def fixed (places : Nat) (x : Float) : Figure :=
  ⟨Decimal.fixed places x, escape_fixed places x⟩

/-! ### Words -/

theorem escape_wholeDuration (whole : Nat) :
    escape (Time.wholeDuration whole) = Time.wholeDuration whole := by
  have hours : escape (toString "h ") = toString "h " := rfl
  have minutes : escape (toString "m ") = toString "m " := rfl
  have seconds : escape (toString "s") = toString "s" := rfl
  unfold Time.wholeDuration
  dsimp only
  split
  · simp only [escape_append, escape_toString, hours, minutes, seconds]
  split
  · simp only [escape_append, escape_toString, minutes, seconds]
  · simp only [escape_append, escape_toString, seconds]

theorem escape_duration (seconds : Float) : escape (Time.duration seconds) = Time.duration seconds := by
  unfold Time.duration
  split
  · exact escape_wholeDuration _
  · rfl

def duration (seconds : Float) : Figure :=
  ⟨Time.duration seconds, escape_duration seconds⟩

theorem escape_label (trend : PassRateTrend) : escape trend.label = trend.label := by
  cases trend with
  | notEnoughData | stable => rfl
  | up difference | down difference =>
    simp only [PassRateTrend.label, escape_append, escape_fixed]
    rfl

def trend (trend : PassRateTrend) : Figure :=
  ⟨trend.label, escape_label trend⟩

end TestHistory.Page.Figure

namespace TestHistory.Page

def number (n : Nat) : Html :=
  figure (.ofNat n)

end TestHistory.Page
