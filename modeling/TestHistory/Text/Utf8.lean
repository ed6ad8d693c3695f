/-!
# Bytes and text

`decodeLossy` reads any bytes as text: each longest start of a character that breaks off, and each
byte that starts none, becomes one replacement character. `cutBytes` shortens a text to a number
of bytes without splitting a character.
-/

namespace TestHistory.Text

namespace Utf8

/-- What has been read of the current character. -/
inductive Partial where
  | none
  /-- The bits so far, the bytes still to come, and the bounds of the next one. -/
  | some (bits missing low high : Nat)

def replacement : Char := '\uFFFD'

/-- The first byte of a character. -/
def start (out : List Char) (b : Nat) : List Char × Partial :=
  if b < 0x80 then (Char.ofNat b :: out, .none)
  else if 0xC2 ≤ b ∧ b ≤ 0xDF then (out, .some (b - 0xC0) 1 0x80 0xBF)
  else if b = 0xE0 then (out, .some 0 2 0xA0 0xBF)
  else if b = 0xED then (out, .some 0xD 2 0x80 0x9F)
  else if 0xE1 ≤ b ∧ b ≤ 0xEF then (out, .some (b - 0xE0) 2 0x80 0xBF)
  else if b = 0xF0 then (out, .some 0 3 0x90 0xBF)
  else if 0xF1 ≤ b ∧ b ≤ 0xF3 then (out, .some (b - 0xF0) 3 0x80 0xBF)
  else if b = 0xF4 then (out, .some 4 3 0x80 0x8F)
  else (replacement :: out, .none)

/-- One byte; the characters read so far stand in `out`, the last one first. -/
def step : List Char × Partial → UInt8 → List Char × Partial
  | (out, .none), b => start out b.toNat
  | (out, .some bits missing low high), b =>
    if low ≤ b.toNat ∧ b.toNat ≤ high then
      let bits := bits * 64 + b.toNat % 64
      if missing = 1 then (Char.ofNat bits :: out, .none)
      else (out, .some bits (missing - 1) 0x80 0xBF)
    else start (replacement :: out) b.toNat

def finish : List Char × Partial → List Char
  | (out, .none) => out.reverse
  | (out, .some ..) => (replacement :: out).reverse

end Utf8

def decodeLossy (bytes : ByteArray) : String :=
  String.ofList (Utf8.finish (bytes.toList.foldl Utf8.step ([], .none)))

/-! ### Cutting a text -/

/-- The position at an offset in bytes, unless it lies inside a character or behind the text. -/
def positionAt? (text : String) (offset : Nat) : Option text.Pos :=
  if valid : (String.Pos.Raw.mk offset).IsValid text then some ⟨⟨offset⟩, valid⟩ else none

/-- Going back byte by byte from an offset, the first position that is found. There is no byte in
front of offset 0 to go back to. -/
def positionBack? (text : String) : Nat → Option text.Pos
  | 0 => positionAt? text 0
  | offset + 1 =>
    match positionAt? text (offset + 1) with
    | some position => some position
    | none => positionBack? text offset

/-- The text in front of a position. -/
def upTo {text : String} (position : text.Pos) : String :=
  (text.sliceTo position).copy

/-- The text cut to a number of bytes, or nothing when it fits. -/
def cutBytes (text : String) (maxBytes : Nat) : Option String :=
  if text.utf8ByteSize ≤ maxBytes then none
  else (positionBack? text maxBytes).map upTo

end TestHistory.Text
