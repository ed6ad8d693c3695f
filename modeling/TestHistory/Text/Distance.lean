/-!
# Edit distance

`editDistance a b` is the least number of characters to insert, delete or replace on the way from
`a` to `b`. It is computed by rows: a row holds the distances from one start of `a` to every start
of `b`, the shortest first. Two rows are enough, since a row only depends on the one before it;
they change places after every character of `a`.
-/

namespace TestHistory.Text

/-- Two rows of distances to the starts of a text of `n` characters. -/
structure Rows (n : Nat) where
  /-- The row of the characters so far. -/
  previous : Vector Nat (n + 1)
  /-- The row to be filled; until then it holds what an older row has left. -/
  current : Vector Nat (n + 1)

namespace Rows

variable {n : Nat}

/-- The row of no characters. -/
def start (n : Nat) : Rows n :=
  ⟨Vector.range (n + 1), Vector.replicate (n + 1) 0⟩

/-- Fills the entry behind a character `y` that stands at place `j`. -/
def fillEntry (x y : Char) (rows : Rows n) (j : Fin n) : Rows n :=
  let cost := if x = y then 0 else 1
  let entry := min (min (rows.previous[j.succ] + 1) (rows.current[j.castSucc] + 1))
    (rows.previous[j.castSucc] + cost)
  { rows with current := rows.current.set j.succ entry }

/-- Fills the entries behind all characters of `b`, from the first to the last. -/
def fill (x : Char) (b : Vector Char n) (rows : Rows n) : Rows n :=
  Fin.foldl n (fun rows j => rows.fillEntry x (b.get j) j) rows

/-- One character more; `i` of them went before it. -/
def extend (x : Char) (i : Nat) (b : Vector Char n) (rows : Rows n) : Rows n :=
  let filled := { rows with current := rows.current.set 0 (i + 1) }.fill x b
  ⟨filled.current, filled.previous⟩

end Rows

def editDistance (a b : String) : Nat :=
  let a := a.toList.toArray
  let b := b.toList.toArray
  if a.isEmpty then b.size
  else if b.isEmpty then a.size
  else
    let rows := Fin.foldl a.size (fun rows i => rows.extend a[i] i b.toVector) (Rows.start b.size)
    rows.previous.back

end TestHistory.Text
