import TestHistory.Decimal.Reading
import TestHistory.Text.Blank
import TestHistory.Text.Columns

/-!
# Texts in a limited number of columns
-/

namespace TestHistory.Terminal

/-- The columns of a terminal that does not tell. -/
def defaultColumns : Nat := 80

/-- The columns that the environment states, unless they are no positive number. -/
def columnsOf (stated : Option String) : Nat :=
  match stated.bind fun text => Decimal.readNatural (Text.trimChars text.toList) with
  | some (n + 1) => n + 1
  | _ => defaultColumns

/-- The characters from the start that fit together, each measured alone. -/
def takeColumns : Nat → List Char → List Char
  | _, [] => []
  | room, c :: rest =>
    let width := Text.charColumns c
    if width ≤ room then c :: takeColumns (room - width) rest else []

def ellipsis : String := "..."

/-- A text that is too wide is cut and ends in dots, if there is room for more than the dots. -/
def fit (text : String) (most : Nat) : String :=
  if Text.columns text.toList ≤ most then text
  else if 3 < most then String.ofList (takeColumns (most - 3) text.toList) ++ ellipsis
  else String.ofList (takeColumns most text.toList)

/-- Blanks after a text up to a number of characters. -/
def padRight (width : Nat) (text : String) : String :=
  String.ofList (text.toList ++ List.replicate (width - text.length) ' ')

/-- Blanks before a text up to a number of characters. -/
def padLeft (width : Nat) (text : String) : String :=
  String.ofList (List.replicate (width - text.length) ' ' ++ text.toList)

end TestHistory.Terminal
