/-!
# Lines with their ends

`pieces` cuts a text after every newline, so joining the pieces gives the text back; `tailLines`
keeps the last of them.
-/

namespace TestHistory.Text

/-- A newline ends a piece; any other character belongs to the piece of its successor. -/
def addToPieces (c : Char) (rest : List (List Char)) : List (List Char) :=
  if c = '\n' then [c] :: rest
  else match rest with
    | [] => [[c]]
    | piece :: more => (c :: piece) :: more

def pieces (text : List Char) : List (List Char) :=
  text.foldr addToPieces []

@[simp] theorem pieces_nil : pieces [] = [] := rfl

@[simp] theorem pieces_cons (c : Char) (text : List Char) :
    pieces (c :: text) = addToPieces c (pieces text) := rfl

theorem flatten_addToPieces (c : Char) (rest : List (List Char)) :
    (addToPieces c rest).flatten = c :: rest.flatten := by
  unfold addToPieces
  split
  · simp
  · cases rest <;> simp

theorem flatten_pieces (text : List Char) : (pieces text).flatten = text := by
  induction text with
  | nil => rfl
  | cons c text ih => rw [pieces_cons, flatten_addToPieces, ih]

/-- The end of a text, with the number of lines of the whole. -/
structure Tail where
  text : String
  totalLines : Nat
  truncated : Bool
  deriving DecidableEq, Repr

def tailLines (text : String) (maxLines : Nat) : Tail :=
  let lines := pieces text.toList
  if lines.length ≤ maxLines then ⟨text, lines.length, false⟩
  else ⟨String.ofList (lines.drop (lines.length - maxLines)).flatten, lines.length, true⟩

end TestHistory.Text
