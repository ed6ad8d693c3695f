import TestHistory.Decimal.Reading
import TestHistory.Yaml.Gap

/-!
# Quoted scalars

Between single quotes a quote is written twice. Between double quotes a backslash begins an
escape; at the end of a line it joins the line to the next one. Gaps fold as in plain scalars.
-/

namespace TestHistory.Yaml

namespace Quoted

/-- What a run of characters without blanks and breaks stopped at. -/
inductive Stop where
  | gap
  | quote
  /-- A backslash at the end of a line. -/
  | joined
  deriving DecidableEq

structure Run where
  text : List Char
  /-- The number of characters that have been read. -/
  size : Nat
  stop : Stop

def simpleEscape? (c : Char) : Option Char :=
  match c with
  | '0' => some (Char.ofNat 0)
  | 'a' => some (Char.ofNat 7)
  | 'b' => some (Char.ofNat 8)
  | 't' | '\t' => some '\t'
  | 'n' => some '\n'
  | 'v' => some (Char.ofNat 11)
  | 'f' => some (Char.ofNat 12)
  | 'r' => some '\r'
  | 'e' => some (Char.ofNat 27)
  | ' ' | '"' | '/' | '\\' => some c
  | 'N' => some '\u0085'
  | '_' => some '\u00A0'
  | 'L' => some '\u2028'
  | 'P' => some '\u2029'
  | _ => none

/-- The number of hexadecimal digits of an escape. -/
def hexLength? (c : Char) : Option Nat :=
  match c with
  | 'x' => some 2
  | 'u' => some 4
  | 'U' => some 8
  | _ => none

def hexChar? (digits : List Char) (length : Nat) : Option Char :=
  if digits.length = length then
    (Decimal.naturalIn? 16 digits).bind fun n =>
      if n.isValidChar then some (Char.ofNat n) else none
  else none

def Run.push (c : Char) (size : Nat) (run : Run) : Run :=
  { run with text := c :: run.text, size := run.size + size }

/-- Characters between double quotes. -/
def double? : Nat → List Char → Option Run
  | 0, _ => none
  | _, [] => some ⟨[], 0, .gap⟩
  | fuel + 1, c :: rest =>
    if isBreak c || isBlank c then some ⟨[], 0, .gap⟩
    else if c = '"' then some ⟨[], 1, .quote⟩
    else if c = '\\' then
      match rest with
      | [] => none
      | d :: rest =>
        if isBreak d then some ⟨[], 1, .joined⟩
        else match simpleEscape? d, hexLength? d with
          | some e, _ => (double? fuel rest).map (Run.push e 2)
          | none, some n =>
            (hexChar? (rest.take n) n).bind fun e =>
              (double? fuel (rest.drop n)).map (Run.push e (n + 2))
          | none, none => none
    else (double? fuel rest).map (Run.push c 1)

/-- Characters between single quotes. -/
def single : List Char → Run
  | [] => ⟨[], 0, .gap⟩
  | '\'' :: '\'' :: rest => (single rest).push '\'' 2
  | c :: rest =>
    if isBreak c || isBlank c then ⟨[], 0, .gap⟩
    else if c = '\'' then ⟨[], 1, .quote⟩
    else (single rest).push c 1

def run? (isSingle : Bool) (fuel : Nat) (text : List Char) : Option Run :=
  if isSingle then some (single text) else double? fuel text

/-- Runs and gaps from a cursor on, after a text, its last character first. -/
def read? (isSingle : Bool) : Nat → List Char → Cursor → Option (List Char × Cursor)
  | 0, _, _ => none
  | fuel + 1, text, c =>
    if c.atMarker || c.peek.isNone then none
    else do
      let run ← run? isSingle (fuel + 1) c.rest
      let text := run.text.reverse ++ text
      let c := c.skip run.size
      match run.stop with
      | .quote => some (text.reverse, c)
      | .gap =>
        let (gap, c) := c.gap
        read? isSingle fuel (gap.folded.reverse ++ text) c
      | .joined =>
        let (gap, c) := (c.skip 1).gap
        read? isSingle fuel (gap.breaks.reverse ++ text) c

end Quoted

/-- The text of the quoted scalar at a cursor. -/
def Cursor.quoted? (c : Cursor) (isSingle : Bool) : Option (List Char × Cursor) :=
  Quoted.read? isSingle (c.rest.length + 1) [] (c.skip 1)

end TestHistory.Yaml
