import TestHistory.Yaml.Block
import TestHistory.Yaml.Plain
import TestHistory.Yaml.Quoted
import TestHistory.Yaml.Tag

/-!
# The tokens of YAML text

Indentation opens and closes blocks, and a key shows itself as one only by the colon after it. The
lexer therefore notes at every token that may begin a key where it stands; a colon turns the last
note of its level into a mark, and `Lexer.marked` puts keys and the blocks they open in front of
the tokens so marked.
-/

namespace TestHistory.Yaml

inductive Token where
  | directive (d : Directive)
  | documentStart
  | documentEnd
  | blockSequence
  | blockMapping
  | blockEnd
  | openSequence
  | closeSequence
  | openMapping
  | closeMapping
  | comma
  | item
  | key
  | value
  | alias (name : String)
  | anchor (name : String)
  | tag (t : Tag)
  | scalar (plain : Bool) (text : String)

/-- A token that may begin a key. -/
structure KeyNote where
  /-- The number of tokens before it. -/
  number : Nat
  start : Place
  /-- It stands where only a key may stand. -/
  required : Bool

/-- A token that begins a key. -/
structure KeyMark where
  number : Nat
  opensMapping : Bool

structure Lexer where
  cursor : Cursor
  /-- The last token first. -/
  tokens : List Token
  count : Nat
  marks : List KeyMark
  /-- The column of the innermost block, -1 outside of all blocks. -/
  indent : Int
  /-- The columns of the blocks around it. -/
  outer : List Int
  /-- The notes of the brackets around the cursor, the innermost first, and of the blocks. -/
  notes : List (Option KeyNote)
  /-- A key may begin here. -/
  keyAllowed : Bool

namespace Lexer

def start (text : String) : Lexer where
  cursor := Cursor.start text
  tokens := []
  count := 0
  marks := []
  indent := -1
  outer := []
  notes := [none]
  keyAllowed := true

def inFlow (l : Lexer) : Bool :=
  1 < l.notes.length

def push (l : Lexer) (token : Token) : Lexer :=
  { l with tokens := token :: l.tokens, count := l.count + 1 }

def note (l : Lexer) : Option KeyNote :=
  l.notes.head?.join

def setNote (l : Lexer) (note : Option KeyNote) : Lexer :=
  { l with notes := note :: l.notes.tail }

/-- Drops the note of this level; one that had to become a key is an error. -/
def dropNote? (l : Lexer) : Option Lexer :=
  if l.note.any KeyNote.required then none else some (l.setNote none)

/-- Notes the next token as one that may begin a key. -/
def noteKey? (l : Lexer) : Option Lexer :=
  if l.keyAllowed then
    let c := l.cursor
    l.dropNote?.map fun l =>
      l.setNote (some ⟨l.count, c.toPlace, !l.inFlow && l.indent = c.column⟩)
  else some l

/-- The most bytes of a key. -/
def maxKeyLength : Nat := 1024

/-- A key ends on its line and is not too long. -/
def isStale (c : Cursor) (note : KeyNote) : Bool :=
  note.start.line < c.line || note.start.offset + maxKeyLength < c.offset

def dropStale? (l : Lexer) : Option Lexer :=
  let stale (note : Option KeyNote) : Bool := note.any (isStale l.cursor)
  if l.notes.any fun note => stale note && note.any KeyNote.required then none
  else some { l with notes := l.notes.map fun note => if stale note then none else note }

/-- Closes the blocks of the columns from some column on. -/
def closeBlocks (l : Lexer) (column : Int) : List Int → Lexer
  | [] => l
  | outer :: more =>
    if column < l.indent then
      closeBlocks { l.push .blockEnd with indent := outer, outer := more } column more
    else l

def unindent (l : Lexer) (column : Int) : Lexer :=
  if l.inFlow then l else closeBlocks l column l.outer

/-- A block of the column begins, unless it is there already. -/
def deepen (l : Lexer) (column : Nat) : Lexer :=
  { l with indent := column, outer := l.indent :: l.outer }

def opensBlock (l : Lexer) (column : Nat) : Bool :=
  !l.inFlow && l.indent < column

def openBlock (l : Lexer) (token : Token) : Lexer :=
  if l.opensBlock l.cursor.column then (l.deepen l.cursor.column).push token else l

/-- Blanks, comments and line breaks. A tab indents nothing, so it is no blank where a key may
begin. -/
def skipSpace : Nat → Lexer → Lexer
  | 0, l => l
  | fuel + 1, l =>
    let c := l.cursor
    let c := if c.column = 0 ∧ c.peek = some '\uFEFF' then c.skip 1 else c
    let tabs := l.inFlow || !l.keyAllowed
    let c := (c.takeWhile fun d => d = ' ' || (tabs && d = '\t')).2
    let c := if c.peek = some '#' then (c.takeWhile (!isBreak ·)).2 else c
    if c.peek.any isBreak then
      skipSpace fuel { l with cursor := c.skip 1, keyAllowed := l.keyAllowed || !l.inFlow }
    else { l with cursor := c }

def advance (l : Lexer) (n : Nat) : Lexer :=
  { l with cursor := l.cursor.skip n }

def allowKey (l : Lexer) (allowed : Bool) : Lexer :=
  { l with keyAllowed := allowed }

/-- Directives and markers of documents close all blocks. -/
def closeAll? (l : Lexer) : Option Lexer :=
  (l.unindent (-1)).dropNote?.map (allowKey · false)

def directive? (l : Lexer) : Option Lexer := do
  let l ← l.closeAll?
  let (directive, cursor) ← l.cursor.directive?
  some ({ l with cursor }.push (.directive directive))

def marker? (l : Lexer) (token : Token) : Option Lexer := do
  let l ← l.closeAll?
  some ((l.advance 3).push token)

def openFlow? (l : Lexer) (token : Token) : Option Lexer := do
  let l ← l.noteKey?
  some (({ l with notes := none :: l.notes }.allowKey true).advance 1 |>.push token)

def closeFlow? (l : Lexer) (token : Token) : Option Lexer := do
  let l ← l.dropNote?
  let notes := if l.inFlow then l.notes.tail else l.notes
  some (({ l with notes }.allowKey false).advance 1 |>.push token)

def comma? (l : Lexer) : Option Lexer := do
  let l ← l.dropNote?
  some ((l.allowKey true).advance 1 |>.push .comma)

def item? (l : Lexer) : Option Lexer := do
  let l ←
    if l.inFlow then some l
    else if l.keyAllowed then some (l.openBlock .blockSequence)
    else none
  let l ← l.dropNote?
  some ((l.allowKey true).advance 1 |>.push .item)

def key? (l : Lexer) : Option Lexer := do
  let l ←
    if l.inFlow then some l
    else if l.keyAllowed then some (l.openBlock .blockMapping)
    else none
  let l ← l.dropNote?
  some ((l.allowKey !l.inFlow).advance 1 |>.push .key)

/-- A colon after a token that may be a key marks it as one. -/
def value? (l : Lexer) : Option Lexer :=
  match l.note with
  | some note =>
    let opens := l.opensBlock note.start.column
    let l := { l with marks := ⟨note.number, opens⟩ :: l.marks }
    let l := if opens then l.deepen note.start.column else l
    some (((l.setNote none).allowKey false).advance 1 |>.push .value)
  | none =>
    if l.inFlow then some ((l.allowKey false).advance 1 |>.push .value)
    else if l.keyAllowed then
      some (((l.openBlock .blockMapping).allowKey true).advance 1 |>.push .value)
    else none

def anchor? (l : Lexer) (token : String → Token) : Option Lexer := do
  let l ← l.noteKey?
  let (name, cursor) ← l.cursor.anchorName?
  some (({ l with cursor }.allowKey false).push (token name))

def tag? (l : Lexer) : Option Lexer := do
  let l ← l.noteKey?
  let (tag, cursor) ← l.cursor.tag? l.inFlow
  some (({ l with cursor }.allowKey false).push (.tag tag))

def block? (l : Lexer) (isLiteral : Bool) : Option Lexer := do
  let l ← l.dropNote?
  let (text, cursor) ← l.cursor.block? isLiteral l.indent
  some (({ l with cursor }.allowKey true).push (.scalar false (String.ofList text)))

def quoted? (l : Lexer) (isSingle : Bool) : Option Lexer := do
  let l ← l.noteKey?
  let (text, cursor) ← l.cursor.quoted? isSingle
  some (({ l with cursor }.allowKey false).push (.scalar false (String.ofList text)))

def plain? (l : Lexer) : Option Lexer := do
  let l ← l.noteKey?
  let scalar ← l.cursor.plain? l.inFlow (l.indent + 1)
  some (({ l with cursor := scalar.cursor }.allowKey scalar.endsLine).push
    (.scalar true (String.ofList scalar.text)))

/-- Signs that begin no plain scalar. -/
def isSign (c : Char) : Bool :=
  "-?:,[]{}#&*!|>'\"%@\x60".toList.contains c

/-- The token that begins with a character. -/
def tokenAt? (l : Lexer) (c : Char) : Option Lexer :=
  let next := l.cursor.peekAt 1
  let stands := endsWord next
  if l.cursor.column = 0 ∧ c = '%' then l.directive?
  else if l.cursor.atMarker then l.marker? (if c = '-' then .documentStart else .documentEnd)
  else if c = '[' then l.openFlow? .openSequence
  else if c = '{' then l.openFlow? .openMapping
  else if c = ']' then l.closeFlow? .closeSequence
  else if c = '}' then l.closeFlow? .closeMapping
  else if c = ',' then l.comma?
  else if c = '-' ∧ stands then l.item?
  else if c = '?' ∧ (l.inFlow ∨ stands) then l.key?
  else if c = ':' ∧ (l.inFlow ∨ stands) then l.value?
  else if c = '*' then l.anchor? .alias
  else if c = '&' then l.anchor? .anchor
  else if c = '!' then l.tag?
  else if c = '|' ∧ !l.inFlow then l.block? true
  else if c = '>' ∧ !l.inFlow then l.block? false
  else if c = '\'' then l.quoted? true
  else if c = '"' then l.quoted? false
  else if c = '-' ∨ (c ≠ '\t' ∧ !isSign c) ∨ (!l.inFlow ∧ (c = '?' ∨ c = ':')) then l.plain?
  else none

def finish? (l : Lexer) : Option Lexer :=
  (l.unindent (-1)).dropNote?

def run? : Nat → Lexer → Option Lexer
  | 0, _ => none
  | fuel + 1, l => do
    let l ← (skipSpace (fuel + 1) l).dropStale?
    match l.cursor.peek with
    | none => l.finish?
    | some c =>
      let next ← (l.unindent l.cursor.column).tokenAt? c
      run? fuel next

/-- The tokens in order, with the keys and the mappings that they begin. -/
def marked (l : Lexer) : List Token :=
  (l.tokens.reverse.zipIdx).flatMap fun (token, number) =>
    match l.marks.find? fun mark => mark.number = number with
    | some mark => (if mark.opensMapping then [.blockMapping] else []) ++ [.key, token]
    | none => [token]

end Lexer

/-- The tokens of a text, if it has some. -/
def tokens? (text : String) : Option (List Token) :=
  if text.toList.all isPrintable then
    (Lexer.run? (text.length + 2) (Lexer.start text)).map Lexer.marked
  else none

end TestHistory.Yaml
