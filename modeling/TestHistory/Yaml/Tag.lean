import TestHistory.Decimal.Reading
import TestHistory.Yaml.Cursor

/-!
# Anchors, tags and directives

A tag is a handle and a suffix; the handles are given their meaning by directives. Percent signs
write bytes of a tag, which therefore is a row of bytes and not always a text.
-/

namespace TestHistory.Yaml

structure Tag where
  handle : String
  suffix : List UInt8
  deriving DecidableEq

inductive Directive where
  | version (major minor : Nat)
  | tag (handle : String) (start : List UInt8)

namespace Cursor

def isAnchorEnd (c : Option Char) : Bool :=
  endsWord c || c.any fun c => ['?', ':', ',', ']', '}', '%', '@', '\x60'].contains c

/-- The name after an anchor or alias sign. -/
def anchorName? (c : Cursor) : Option (String × Cursor) :=
  let (name, c) := (c.skip 1).takeWhile isWordChar
  if name.isEmpty || !isAnchorEnd c.peek then none else some (String.ofList name, c)

/-- An exclamation mark, word characters, and a second mark if it follows. -/
def tagHandle? (c : Cursor) : Option (List Char × Cursor) :=
  if c.peek = some '!' then
    let (name, c) := (c.skip 1).takeWhile isWordChar
    if c.peek = some '!' then some ('!' :: (name ++ ['!']), c.skip 1) else some ('!' :: name, c)
  else none

/-- A handle with a mark at both ends. -/
def isClosed (handle : List Char) : Bool :=
  2 ≤ handle.length && handle.getLast? = some '!'

def isUriChar (verbatim : Bool) (c : Char) : Bool :=
  isWordChar c || ";/?:@&=+$.%!~*'()".toList.contains c ||
    (verbatim && [',', '[', ']'].contains c)

/-- How many bytes a first byte announces. -/
def announced? (b : Nat) : Option Nat :=
  if b < 0x80 then some 1
  else if 0xC0 ≤ b ∧ b < 0xE0 then some 2
  else if 0xE0 ≤ b ∧ b < 0xF0 then some 3
  else if 0xF0 ≤ b ∧ b < 0xF8 then some 4
  else none

/-- The bytes that a run of characters writes; `missing` of those that a first byte announces are
still to come. They need not make a character. -/
def uriBytes? (missing : Nat) : List Char → Option (List UInt8)
  | [] => if missing = 0 then some [] else none
  | '%' :: a :: b :: rest => do
    let n ← Decimal.naturalIn? 16 [a, b]
    let missing ←
      if missing = 0 then (announced? n).map (· - 1)
      else if 0x80 ≤ n ∧ n < 0xC0 then some (missing - 1)
      else none
    return n.toUInt8 :: (← uriBytes? missing rest)
  | c :: rest =>
    if c = '%' ∨ missing ≠ 0 then none else (uriBytes? 0 rest).map (c.toNat.toUInt8 :: ·)

/-- The bytes of a tag's text, if there is one. A zero byte ends them. -/
def uri? (verbatim : Bool) (c : Cursor) : Option (List UInt8 × Cursor) :=
  let (text, c) := c.takeWhile (isUriChar verbatim)
  (uriBytes? 0 text).map fun bytes => (bytes.takeWhile (· ≠ 0), c)

/-- As `uri?`, where at least one character has to stand. -/
def someUri? (verbatim : Bool) (c : Cursor) : Option (List UInt8 × Cursor) :=
  if c.peek.any (isUriChar verbatim) then c.uri? verbatim else none

def verbatimTag? (c : Cursor) : Option (Tag × Cursor) := do
  let (text, c) ← (c.skip 2).someUri? true
  if c.peek = some '>' then some (⟨"", text⟩, c.skip 1) else none

/-- A tag with a handle, or with no more than an exclamation mark in front. -/
def shortTag? (c : Cursor) : Option (Tag × Cursor) := do
  let (handle, c) ← tagHandle? c
  if isClosed handle then
    (c.someUri? false).map fun (suffix, c) => (⟨String.ofList handle, suffix⟩, c)
  else
    let (text, c) ← c.uri? false
    let suffix := (handle.drop 1).map (·.toNat.toUInt8) ++ text
    some (if suffix = [] then ⟨"", "!".toUTF8.toList⟩ else ⟨"!", suffix⟩, c)

/-- The tag at a cursor, which a blank, a break or, within brackets, a comma has to follow. -/
def tag? (c : Cursor) (inFlow : Bool) : Option (Tag × Cursor) := do
  let (tag, c) ← if c.peekAt 1 = some '<' then verbatimTag? c else shortTag? c
  if endsWord c.peek ∨ (inFlow ∧ c.peek = some ',') then some (tag, c) else none

/-- At most nine digits. -/
def versionNumber? (c : Cursor) : Option (Nat × Cursor) :=
  let (digits, c) := c.takeWhile Decimal.isDigit
  if digits.isEmpty || 9 < digits.length then none else some (Decimal.ofDecimal digits, c)

def versionDirective? (c : Cursor) : Option (Directive × Cursor) := do
  let (major, c) ← (c.takeWhile isBlank).2.versionNumber?
  if c.peek = some '.' then
    let (minor, c) ← (c.skip 1).versionNumber?
    some (.version major minor, c)
  else none

def tagDirective? (c : Cursor) : Option (Directive × Cursor) := do
  let (handle, c) ← (c.takeWhile isBlank).2.tagHandle?
  let (blanks, c) := c.takeWhile isBlank
  let (start, c) ← c.someUri? true
  if (handle = ['!'] ∨ isClosed handle) ∧ !blanks.isEmpty ∧ endsWord c.peek then
    some (.tag (String.ofList handle) start, c)
  else none

/-- The directive at a cursor, with the rest of its line. -/
def directive? (c : Cursor) : Option (Directive × Cursor) := do
  let (name, c) := (c.skip 1).takeWhile isWordChar
  let (directive, c) ←
    if !endsWord c.peek then none
    else if name = "YAML".toList then versionDirective? c
    else if name = "TAG".toList then tagDirective? c
    else none
  let c := c.skipComment
  match c.peek with
  | none => some (directive, c)
  | some d => if isBreak d then some (directive, c.skip 1) else none

end Cursor

end TestHistory.Yaml
