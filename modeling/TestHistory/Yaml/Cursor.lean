/-!
# Places in a text

A cursor is what remains of a text with the place that it starts at. Line ends are brought to one
form before: a line feed, or one of the separators of lines and of paragraphs.
-/

namespace TestHistory.Yaml

def isBreak (c : Char) : Bool :=
  c = '\n' || c = '\u2028' || c = '\u2029'

def isBlank (c : Char) : Bool :=
  c = ' ' || c = '\t'

/-- The end of a text counts as a break. -/
def endsLine : Option Char → Bool
  | none => true
  | some c => isBreak c

def endsWord : Option Char → Bool
  | none => true
  | some c => isBreak c || isBlank c

/-- Letters, digits, underscores and hyphens. -/
def isWordChar (c : Char) : Bool :=
  c.isAlphanum || c = '_' || c = '-'

/-- The characters that a document may have. -/
def isPrintable (c : Char) : Bool :=
  let n := c.toNat
  n = 9 || n = 10 || n = 13 || (0x20 ≤ n && n ≤ 0x7E) || n = 0x85 || (0xA0 ≤ n && n ≤ 0xD7FF) ||
    (0xE000 ≤ n && n ≤ 0xFFFD) || 0x10000 ≤ n

/-- Carriage returns and next-line characters become line feeds. -/
def unifyBreaks : List Char → List Char
  | '\r' :: '\n' :: rest => '\n' :: unifyBreaks rest
  | c :: rest => (if c = '\r' ∨ c = '\u0085' then '\n' else c) :: unifyBreaks rest
  | [] => []

structure Place where
  line : Nat
  column : Nat
  /-- The number of bytes in front of it on its line. -/
  offset : Nat

/-- The place after a character. -/
def Place.after (p : Place) (c : Char) : Place :=
  if isBreak c then ⟨p.line + 1, 0, 0⟩ else ⟨p.line, p.column + 1, p.offset + c.utf8Size⟩

structure Cursor extends Place where
  rest : List Char

namespace Cursor

def start (text : String) : Cursor :=
  ⟨⟨0, 0, 0⟩, unifyBreaks text.toList⟩

def peek (c : Cursor) : Option Char :=
  c.rest.head?

/-- The character some places further on. -/
def peekAt (c : Cursor) (n : Nat) : Option Char :=
  c.rest[n]?

/-- After some characters. -/
def skip (c : Cursor) (n : Nat) : Cursor :=
  ⟨(c.rest.take n).foldl Place.after c.toPlace, c.rest.drop n⟩

/-- The first characters that satisfy a condition. -/
def takeWhile (c : Cursor) (p : Char → Bool) : List Char × Cursor :=
  let run := c.rest.takeWhile p
  (run, c.skip run.length)

def startsWith (c : Cursor) (text : List Char) : Bool :=
  text.isPrefixOf c.rest

/-- Three hyphens or three dots that stand alone at the start of a line. -/
def atMarker (c : Cursor) : Bool :=
  c.column = 0 && (c.startsWith ['-', '-', '-'] || c.startsWith ['.', '.', '.']) &&
    endsWord (c.peekAt 3)

/-- After blanks and a comment. -/
def skipComment (c : Cursor) : Cursor :=
  let c := (c.takeWhile isBlank).2
  if c.peek = some '#' then (c.takeWhile (!isBreak ·)).2 else c

end Cursor

end TestHistory.Yaml
