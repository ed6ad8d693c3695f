import TestHistory.Analysis.Comparison
import TestHistory.Decimal.Fixed
import TestHistory.Terminal.Fit
import TestHistory.Terminal.Style
import TestHistory.Time.Duration

/-!
# Listings for people

A listing is a list of lines; `comparisonLines` lists a comparison in three sections, and
`flakyLines` has one line for every flaky test.
-/

namespace TestHistory.Terminal

structure Options where
  useColor : Bool
  /-- The columns to fill. -/
  width : Nat

/-- Every line with a line feed. -/
def unlines (lines : List String) : String :=
  String.join (lines.map (· ++ "\n"))

/-- The room for a test name beside other text, never too small to be of use. -/
def nameColumns (width others : Nat) : Nat :=
  max 20 (width - others)

def comparedLine (options : Options) (t : ComparedTest) : String :=
  "  " ++ fit t.row.testName (nameColumns options.width 24) ++
    "  " ++ Decimal.fixed 2 t.base.runtime ++ "s -> " ++ Decimal.fixed 2 t.head.runtime ++
    "s  [" ++ stateText options.useColor t.base.state ++
    " -> " ++ stateText options.useColor t.head.state ++ "]"

/-- A heading with the number of tests, and the tests or a remark that there are none. -/
def sectionLines (options : Options) (title remark : String) (tests : List ComparedTest) :
    List String :=
  let heading := Style.bold.apply options.useColor (title ++ " (" ++ toString tests.length ++ ")")
  "" :: heading ::
    if tests.isEmpty then ["  " ++ remark] else tests.map (comparedLine options)

def comparisonLines (options : Options) (c : Comparison) : List String :=
  Style.bold.apply options.useColor
    ("Comparing run " ++ c.baseId ++ " -> run " ++ c.headId) ::
  ("Tests compared: " ++ toString c.testsCompared) ::
  ("Runtime: " ++ Decimal.fixed 1 c.baseRuntime ++ "s -> " ++ Decimal.fixed 1 c.headRuntime ++
    "s (" ++ Decimal.fixedSigned 1 c.runtimeDifference ++ "s, " ++
    Decimal.fixedSigned 1 c.runtimePercent ++ "%)") ::
  (sectionLines options "New failures" "No new failures" c.newFailures ++
    sectionLines options "Fixed" "No fixed tests" c.fixed ++
    sectionLines options "Regressions" "No regressions detected" c.regressions)

def comparisonText (options : Options) (c : Comparison) : String :=
  unlines (comparisonLines options c)

def historyText (row : Row) : String :=
  String.join (row.outcomes.map Outcome.letter)

def flakyLine (options : Options) (row : Row) : String :=
  let score := padLeft 3 (Decimal.fixed 0 row.flakiness) ++ "%"
  Style.yellow.apply options.useColor score ++
    "  " ++ padRight 11 row.pattern.name ++
    "  " ++ padLeft 2 (toString row.failCount) ++ "/" ++ padRight 2 (toString row.totalRuns) ++
    "  " ++ padRight 10 (fit (historyText row) 10) ++
    "  " ++ fit row.testName (nameColumns options.width 40)

def flakyLines (options : Options) (rows : List Row) : List String :=
  match rows.filter Row.isFlaky with
  | [] => ["No flaky tests detected."]
  | flaky =>
    flaky.map (flakyLine options) ++
      ["", toString flaky.length ++ " flaky test(s); newest run first in history."]

def flakyText (options : Options) (rows : List Row) : String :=
  unlines (flakyLines options rows)

/-- The headline of a run. -/
def runLabel (id date : String) (runtime : Float) : String :=
  "Run " ++ id ++ " - " ++ date ++ " (" ++ Time.duration runtime ++ ")"

end TestHistory.Terminal
