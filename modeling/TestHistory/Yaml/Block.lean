import TestHistory.Decimal.Reading
import TestHistory.Yaml.Cursor

/-!
# Block scalars

A block scalar is the text of the lines below its header that are indented far enough. A literal
one keeps its line breaks; a folded one joins lines that begin with no blank. Breaks at the end
are kept, cut to one or dropped.
-/

namespace TestHistory.Yaml

namespace Block

inductive Chomping where
  | strip
  | clip
  | keep
  deriving DecidableEq

structure Header where
  chomping : Chomping
  /-- The indentation that the header states, relative to what surrounds the scalar. -/
  indent : Option Nat

def chomping? (c : Option Char) : Option Chomping :=
  match c with
  | some '-' => some .strip
  | some '+' => some .keep
  | _ => none

/-- A digit from one to nine. -/
def indent? (c : Option Char) : Option Nat :=
  c.bind fun c => if '1' ≤ c ∧ c ≤ '9' then some (Decimal.digitValue c) else none

/-- The signs after the first one, in either order, and the rest of their line. -/
def header? (c : Cursor) : Option (Header × Cursor) :=
  let (header, c) : Header × Cursor :=
    match chomping? c.peek, indent? c.peek with
    | some chomping, _ =>
      match indent? (c.peekAt 1) with
      | some n => (⟨chomping, some n⟩, c.skip 2)
      | none => (⟨chomping, none⟩, c.skip 1)
    | none, some n =>
      match chomping? (c.peekAt 1) with
      | some chomping => (⟨chomping, some n⟩, c.skip 2)
      | none => (⟨.clip, some n⟩, c.skip 1)
    | none, none => (⟨.clip, none⟩, c)
  let c := c.skipComment
  match c.peek with
  | none => some (header, c)
  | some d => if isBreak d then some (header, c.skip 1) else none

/-- Breaks before the next line that has a text. -/
structure Leading where
  /-- The last one first. -/
  breaks : List Char
  /-- The greatest number of blanks on one of the lines. -/
  widest : Nat
  cursor : Cursor

/-- Without an indentation all blanks of a line are skipped, else only those up to it. A tab among
the blanks that indent is refused. -/
def leading? (indent : Option Nat) : List Char → Place → Leading → Option Leading
  | [], p, l => some { l with widest := max l.widest p.column, cursor := ⟨p, []⟩ }
  | c :: rest, p, l =>
    let indents := indent.all fun n => p.column < n
    let l := { l with widest := max l.widest p.column }
    if c = ' ' && indents then leading? indent rest (p.after c) l
    else if c = '\t' && indents then none
    else if isBreak c then leading? indent rest (p.after c) { l with breaks := c :: l.breaks }
    else some { l with cursor := ⟨p, c :: rest⟩ }

def startLeading? (indent : Option Nat) (c : Cursor) : Option Leading :=
  leading? indent c.rest c.toPlace ⟨[], 0, c⟩

/-- What has been read: the text, the break after it and further breaks, and whether its last line
begins with a blank. -/
structure Body where
  /-- The last character first. -/
  text : List Char
  lineEnd : List Char
  trailing : List Char
  blankStart : Bool

/-- Before a line that follows: its breaks, folded where they may be. -/
def Body.separator (isLiteral : Bool) (b : Body) (blankStart : Bool) : List Char :=
  if !isLiteral && b.lineEnd.head? = some '\n' && !b.blankStart && !blankStart then
    (if b.trailing.isEmpty then [' '] else []) ++ b.trailing
  else b.lineEnd ++ b.trailing

def Body.finish (chomping : Chomping) (b : Body) : List Char :=
  b.text.reverse ++ match chomping with
    | .strip => []
    | .clip => b.lineEnd
    | .keep => b.lineEnd ++ b.trailing

/-- Lines that are indented as the first one. -/
def lines? (isLiteral : Bool) (indent : Nat) : Nat → Body → Cursor → Option (Body × Cursor)
  | 0, _, _ => none
  | fuel + 1, b, c =>
    if c.column ≠ indent ∨ c.peek.isNone then some (b, c)
    else do
      let blankStart := c.peek.any isBlank
      let (line, c) := c.takeWhile (!isBreak ·)
      let lineEnd := c.peek.toList
      let c := if lineEnd.isEmpty then c else c.skip 1
      let next ← startLeading? (some indent) c
      let text := (b.separator isLiteral blankStart ++ line).reverse ++ b.text
      lines? isLiteral indent fuel ⟨text, lineEnd, next.breaks.reverse, blankStart⟩ next.cursor

end Block

/-- The text of the block scalar at a cursor; `indent` is that of the block around it, -1 outside
of all blocks. -/
def Cursor.block? (c : Cursor) (isLiteral : Bool) (indent : Int) : Option (List Char × Cursor) := do
  let (header, c) ← Block.header? (c.skip 1)
  let stated := header.indent.map fun n => if 0 ≤ indent then indent.toNat + n else n
  let leading ← Block.startLeading? stated c
  let own := stated.getD (max leading.widest (max (indent + 1).toNat 1))
  let (body, c) ← Block.lines? isLiteral own (c.rest.length + 2)
    ⟨[], [], leading.breaks.reverse, false⟩ leading.cursor
  return (body.finish header.chomping, c)

end TestHistory.Yaml
