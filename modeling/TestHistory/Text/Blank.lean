/-!
# Blank characters

`isBlank` is the Unicode property White_Space; `trim` drops such characters at both ends.
-/

namespace TestHistory.Text

def isBlank (c : Char) : Bool :=
  let n := c.toNat
  (9 ≤ n && n ≤ 13) || n == 0x20 || n == 0x85 || n == 0xA0 || n == 0x1680 ||
    (0x2000 ≤ n && n ≤ 0x200A) || n == 0x2028 || n == 0x2029 || n == 0x202F || n == 0x205F ||
    n == 0x3000

def trimStart (text : List Char) : List Char :=
  text.dropWhile isBlank

def trimChars (text : List Char) : List Char :=
  (trimStart (trimStart text).reverse).reverse

def trim (text : String) : String :=
  String.ofList (trimChars text.toList)

/-- A text with nothing but blanks in it. -/
def isBlankText (text : String) : Bool :=
  text.toList.all isBlank

end TestHistory.Text
