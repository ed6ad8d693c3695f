/-!
# Digits in groups of three

`groupThousands` sets a comma wherever the number of digits still to come is a multiple of three.
-/

namespace TestHistory.Decimal

/-- A comma stands before a digit when the digits from there on fill whole groups. -/
def groupDigits : List Char → List Char
  | [] => []
  | [c] => [c]
  | c :: d :: rest =>
    if (rest.length + 1) % 3 = 0 then c :: ',' :: groupDigits (d :: rest)
    else c :: groupDigits (d :: rest)

def groupThousands (n : Nat) : String :=
  String.ofList (groupDigits (Nat.toDigits 10 n))

end TestHistory.Decimal
