import TestHistory.Yaml.Cursor

/-!
# Blanks and breaks inside scalars

A gap is a run of blanks and line breaks. On one line it stays as it is; a single break folds to
a blank, and of several breaks the first one vanishes.
-/

namespace TestHistory.Yaml

structure Gap where
  /-- Those before the first break. -/
  blanks : List Char
  breaks : List Char
  /-- The least column of a tab after a break. -/
  tab : Option Nat

namespace Gap

def none : Gap :=
  ⟨[], [], .none⟩

def hasBreak (g : Gap) : Bool :=
  !g.breaks.isEmpty

/-- Separators of lines and paragraphs do not vanish. -/
def folded (g : Gap) : List Char :=
  match g.breaks with
  | [] => g.blanks
  | ['\n'] => [' ']
  | '\n' :: more => more
  | breaks => breaks

def withTab (g : Gap) (column : Nat) : Gap :=
  { g with tab := some (match g.tab with | some least => min least column | .none => column) }

/-- The gap at the start of a text, lists reversed while reading. -/
def read : List Char → Place → Gap → Gap × Cursor
  | [], p, g => (⟨g.blanks.reverse, g.breaks.reverse, g.tab⟩, ⟨p, []⟩)
  | c :: rest, p, g =>
    if isBreak c then read rest (p.after c) { g with breaks := c :: g.breaks }
    else if !isBlank c then (⟨g.blanks.reverse, g.breaks.reverse, g.tab⟩, ⟨p, c :: rest⟩)
    else if !g.hasBreak then read rest (p.after c) { g with blanks := c :: g.blanks }
    else if c = '\t' then read rest (p.after c) (g.withTab p.column)
    else read rest (p.after c) g

end Gap

def Cursor.gap (c : Cursor) : Gap × Cursor :=
  Gap.read c.rest c.toPlace Gap.none

end TestHistory.Yaml
