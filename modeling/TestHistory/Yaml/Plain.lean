import TestHistory.Yaml.Gap

/-!
# Plain scalars

A plain scalar is made of words with gaps between them. It ends before a colon that ends a word,
before a comment, at a line that is indented too little, and within brackets at their signs.
-/

namespace TestHistory.Yaml

/-- A scalar with the place after it. -/
structure PlainScalar where
  text : List Char
  /-- A line break follows the last word. -/
  endsLine : Bool
  cursor : Cursor

namespace Plain

def isFlowSign (c : Char) : Bool :=
  c = ',' || c = '[' || c = ']' || c = '{' || c = '}'

/-- The characters up to a blank, a break or a sign that ends the scalar. Within brackets a colon
directly before a sign is refused. -/
def word? (inFlow : Bool) : List Char → Option (List Char)
  | [] => some []
  | c :: rest =>
    if isBreak c || isBlank c then some []
    else if inFlow && c = ':' && rest.head?.any (fun d => isFlowSign d || d = '?') then none
    else if c = ':' && endsWord rest.head? then some []
    else if inFlow && isFlowSign c then some []
    else (word? inFlow rest).map (c :: ·)

/-- Words and gaps from a cursor on, after a text, its last character first, and a gap. -/
def read? (inFlow : Bool) (indent : Int) : Nat → List Char → Gap → Cursor → Option PlainScalar
  | 0, _, _, _ => none
  | fuel + 1, text, gap, c =>
    if c.atMarker || c.peek = some '#' then some ⟨text.reverse, gap.hasBreak, c⟩
    else do
      let word ← word? inFlow c.rest
      let c := c.skip word.length
      let (text, gap) :=
        if word.isEmpty then (text, gap) else ((gap.folded ++ word).reverse ++ text, Gap.none)
      if !endsWord c.peek || c.peek.isNone then some ⟨text.reverse, gap.hasBreak, c⟩
      else
        let (gap, c) := c.gap
        if gap.tab.any (fun column => (column : Int) < indent) then none
        else if !inFlow && (c.column : Int) < indent then some ⟨text.reverse, gap.hasBreak, c⟩
        else read? inFlow indent fuel text gap c

end Plain

/-- The plain scalar at a cursor; outside brackets its lines are indented at least so far. -/
def Cursor.plain? (c : Cursor) (inFlow : Bool) (indent : Int) : Option PlainScalar :=
  Plain.read? inFlow indent (c.rest.length + 1) [] Gap.none c

end TestHistory.Yaml
