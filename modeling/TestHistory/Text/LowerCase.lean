import TestHistory.Text.Ranges
import TestHistory.Text.LowerCaseTable

/-!
# Lower case

`lowerCase` maps every character to its lower case form. A capital sigma becomes a final sigma
when a cased character stands before it and none after it, case-ignorable characters not counted.
-/

namespace TestHistory.Text

namespace LowerCase

def isCased (c : Char) : Bool :=
  inRanges casedRanges c

def isIgnorable (c : Char) : Bool :=
  inRanges ignorableRanges c

/-- The one character that a capital letter other than sigma and the dotted I becomes. -/
def simple (c : Char) : Char :=
  let n := c.toNat
  match shifts.find? fun (first, last, gap, _) => first ≤ n && n ≤ last && (n - first) % gap = 0 with
  | some (_, _, _, shift) => Char.ofNat (n + shift).toNat
  | none => c

def nextIsCased (rest : List Char) : Bool :=
  (rest.dropWhile isIgnorable).head?.any isCased

/-- `cased` says whether the last character so far that is not ignorable is cased. -/
def map (cased : Bool) : List Char → List Char
  | [] => []
  | c :: rest =>
    let cased' := if isIgnorable c then cased else isCased c
    if c = 'Σ' then (if cased && !nextIsCased rest then 'ς' else 'σ') :: map cased' rest
    else if c = 'İ' then 'i' :: '\u0307' :: map cased' rest
    else simple c :: map cased' rest

end LowerCase

def lowerCase (text : String) : String :=
  String.ofList (LowerCase.map false text.toList)

end TestHistory.Text
