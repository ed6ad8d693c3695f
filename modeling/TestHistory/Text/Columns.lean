import TestHistory.Text.Ranges
import TestHistory.Text.ColumnTable

/-!
# Columns on a terminal

`charColumns` is the width of a single character. `columns` is the width of a text, which is
read from its end: emoji sequences, line ends and some ligatures take less room than their
characters alone, so each character is measured knowing what follows it.
-/

namespace TestHistory.Text

namespace Columns

/-- Letters that may join with a letter before them. -/
inductive Joining where
  | alef | lamed | buginese | bugineseVowel | tifinagh | tifinaghJoiner | lisu | oldTurkic | khmer
  deriving DecidableEq

/-- What the text to the right of a character begins with. -/
inductive Following where
  | plain
  | lineFeed
  /-- A selector of fullwidth forms. -/
  | fullwidth
  | skinTone
  | region (several : Bool)
  | emoji
  /-- A joiner and then an emoji. -/
  | joined
  | joinedKeycap
  /-- Regional indicators before a joiner and an emoji: one, an even or an odd number of them. -/
  | joinedRegion
  | joinedRegions (even : Bool)
  /-- The end of a tag sequence before a joiner and an emoji, with the number of letters and of
  digits read. -/
  | joinedTags (letters digits : Nat)
  | kiratE
  | kiratAi
  /-- A letter that joins, perhaps with a joiner before it. -/
  | letter (kind : Joining) (joiner : Bool)
  deriving DecidableEq

inductive Selector where
  | none | text | emoji
  deriving DecidableEq

structure Context where
  following : Following
  selector : Selector
  deriving DecidableEq

def Context.plain : Context := ⟨.plain, .none⟩

def isWide (c : Char) : Bool := inRanges wideRanges c
def isEmpty (c : Char) : Bool := inRanges emptyRanges c
def isOpaque (c : Char) : Bool := inRanges opaqueRanges c
def isEmoji (c : Char) : Bool := inRanges emojiRanges c
def isModifiable (c : Char) : Bool := inRanges modifiableRanges c
def isSelectable (c : Char) : Bool := inRanges selectableRanges c
def isTextSelectable (c : Char) : Bool := inRanges textSelectableRanges c

def isControl (c : Char) : Bool :=
  c.toNat < 0x20 || (0x7F ≤ c.toNat && c.toNat < 0xA0)

def isRegion (c : Char) : Bool := inRanges [(0x1F1E6, 0x1F1FF)] c
def isSkinTone (c : Char) : Bool := inRanges [(0x1F3FB, 0x1F3FF)] c
def isQuote (c : Char) : Bool := inRanges [(0x2018, 0x2019), (0x201C, 0x201D)] c
def isTifinagh (c : Char) : Bool := inRanges [(0x2D31, 0x2D65), (0x2D6F, 0x2D6F)] c

def isAlef (c : Char) : Bool :=
  inRanges [(0x622, 0x623), (0x625, 0x625), (0x627, 0x627), (0x671, 0x673), (0x675, 0x675),
    (0x773, 0x774), (0x870, 0x882)] c

def isLam (c : Char) : Bool :=
  inRanges [(0x644, 0x644), (0x6B5, 0x6B8), (0x76A, 0x76A), (0x8A6, 0x8A6), (0x8C7, 0x8C7)] c

/-- Khmer letters that a preceding sign draws below the line. -/
def isKhmerLetter (c : Char) : Bool :=
  inRanges [(0x1780, 0x1782), (0x1784, 0x1787), (0x1789, 0x178C), (0x178E, 0x1793),
    (0x1795, 0x1798), (0x179B, 0x179D), (0x17A0, 0x17A0), (0x17A2, 0x17A2), (0x17A7, 0x17A7),
    (0x17AB, 0x17AC), (0x17AF, 0x17AF)] c

/-- The width of a character on its own. -/
def ownWidth (c : Char) : Nat :=
  if c.toNat < 0x7F then 1
  else if c = '\u17D8' then 3
  else if isEmpty c then 0
  else if isWide c then 2
  else 1

/-- How the text begins with a character when nothing to its right matters. -/
def start (c : Char) : Context :=
  if c = '\uFE0F' then ⟨.plain, .emoji⟩
  else if c = '\uFE0E' then ⟨.plain, .text⟩
  else if c = '\uFE01' then ⟨.fullwidth, .none⟩
  else if isSkinTone c then ⟨.skinTone, .none⟩
  else if isEmoji c then ⟨.emoji, .none⟩
  else if isRegion c then ⟨.region false, .none⟩
  else if isAlef c then ⟨.letter .alef false, .none⟩
  else if c = '\u05DC' then ⟨.letter .lamed false, .none⟩
  else if isKhmerLetter c then ⟨.letter .khmer false, .none⟩
  else if c = '\u1A10' then ⟨.letter .buginese false, .none⟩
  else if isTifinagh c then ⟨.letter .tifinagh false, .none⟩
  else if c = '\uA4FC' ∨ c = '\uA4FD' then ⟨.letter .lisu false, .none⟩
  else if c.toNat = 0x10C03 then ⟨.letter .oldTurkic false, .none⟩
  else if c.toNat = 0x16D67 then ⟨.kiratE, .none⟩
  else if c.toNat = 0x16D68 then ⟨.kiratAi, .none⟩
  else Context.plain

/-- Does a sequence that a joiner continues begin here? -/
def joinsEmoji : Following → Bool
  | .emoji | .region true | .joinedRegions _ | .skinTone => true
  | _ => false

/-- One more letter or digit of a region, which is read from its end: three to six letters, or
three digits with at most four letters after them. -/
def tagStep (letters digits : Nat) (c : Char) : Option Following :=
  if inRanges [(0xE0061, 0xE007A)] c ∧ digits = 0 ∧ letters < 6 then
    some (.joinedTags (letters + 1) 0)
  else if inRanges [(0xE0030, 0xE0039)] c ∧ letters ≤ 4 ∧ digits < 3 then
    some (.joinedTags letters (digits + 1))
  else none

def isRegionName (letters digits : Nat) : Bool :=
  digits = 3 || (digits = 0 && 3 ≤ letters)

/-- A ligature or another form of a character before what follows: its width and the new
beginning. -/
def ligature (following : Following) (c : Char) : Option (Int × Following) :=
  match following with
  | .fullwidth => if isQuote c then some (2, .plain) else none
  | .letter .alef _ =>
    if isLam c then some (0, .plain)
    else if isEmpty c ∧ !isOpaque c then some (0, following)
    else none
  | .letter .lamed true => if c = '\u05D0' then some (0, .plain) else none
  | .letter .khmer _ => if c = '\u17D2' then some (-1, .plain) else none
  | .letter .buginese true =>
    if c = '\u1A17' then some (0, .letter .bugineseVowel true) else none
  | .letter .bugineseVowel _ => if c = '\u1A15' then some (0, .plain) else none
  | .letter .tifinagh joiner =>
    if c = '\u2D7F' then some (1, .letter .tifinaghJoiner false)
    else if joiner ∧ isTifinagh c then some (0, .plain)
    else none
  | .letter .tifinaghJoiner _ => if isTifinagh c then some (-1, .plain) else none
  | .letter .lisu _ => if inRanges [(0xA4F8, 0xA4FB)] c then some (0, .plain) else none
  | .letter .oldTurkic true => if c.toNat = 0x10C32 then some (0, .plain) else none
  | .kiratE =>
    if c.toNat = 0x16D63 ∨ c.toNat = 0x16D69 then some (0, .plain)
    else if c.toNat = 0x16D67 then some (0, .kiratAi)
    else if c.toNat = 0x16D68 then some (1, .kiratE)
    else none
  | .kiratAi => if c.toNat = 0x16D63 then some (0, .plain) else none
  | _ => none

/-- An emoji sequence of a character with what follows: its width and the new beginning. -/
def sequence (following : Following) (c : Char) : Option (Int × Following) :=
  if c = '\u200D' ∧ joinsEmoji following then some (0, .joined)
  else match following with
  | .skinTone => if isModifiable c then some (0, .emoji) else none
  | .region _ => if isRegion c then some (1, .region true) else none
  | .joined =>
    if c = '\u20E3' then some (0, .joinedKeycap)
    else if isRegion c then some (1, .joinedRegion)
    else if isSkinTone c then some (0, .skinTone)
    else if c.toNat = 0xE007F then some (0, .joinedTags 0 0)
    else if isEmoji c then some (0, .emoji)
    else none
  | .joinedRegion => if isRegion c then some (-1, .joinedRegions true) else none
  | .joinedRegions even =>
    if isRegion c then some (if even then 3 else -1, .joinedRegions (!even)) else none
  | .joinedTags letters digits =>
    if c.toNat = 0x1F3F4 ∧ isRegionName letters digits then some (0, .emoji)
    else (tagStep letters digits c).map fun next => (0, next)
  | _ => none

/-- Joiners and default ignorable marks that ligatures of letters see through. -/
def seesThrough (following : Following) (c : Char) : Option Following :=
  match following with
  | .letter kind joiner =>
    if c = '\u200D' then
      some (.letter kind (joiner || kind = .lamed || kind = .buginese || kind = .tifinagh ||
        kind = .oldTurkic))
    else if isEmpty c ∧ inRanges [(0x34F, 0x34F), (0x17B4, 0x17B5), (0x180B, 0x180D),
        (0x180F, 0x180F), (0xFE00, 0xFE0F), (0xE0100, 0xE01EF)] c then some following
    else none
  | _ => none

/-- A selector keeps what follows in view only inside a sequence. -/
def select (following : Following) (selector : Selector) : Context :=
  match following with
  | .joined | .joinedKeycap =>
    if selector = .emoji then ⟨following, selector⟩ else ⟨.plain, selector⟩
  | .letter .. => ⟨following, selector⟩
  | _ => ⟨.plain, selector⟩

/-- The width that a character adds before what follows it, and how the text begins with it. -/
def before (following : Following) (c : Char) : Int × Context :=
  if c.toNat ≤ 0xA0 then
    if c = '\n' then (1, ⟨.lineFeed, .none⟩)
    else if c = '\r' ∧ following = .lineFeed then (0, Context.plain)
    else (1, Context.plain)
  else if following = .plain then (ownWidth c, start c)
  else if c = '\uFE0F' then (0, select following .emoji)
  else if c = '\uFE0E' then (0, select following .text)
  else match seesThrough following c with
    | some next => (0, ⟨next, .none⟩)
    | none => match (ligature following c).or (sequence following c) with
      | some (width, next) => (width, ⟨next, .none⟩)
      | none => (ownWidth c, start c)

/-- What follows a character that the selector after it does not change: the selector ends every
sequence but the ligatures of letters. -/
def unselected (context : Context) : Following :=
  match context.selector, context.following with
  | .none, following => following
  | _, .letter kind joiner => .letter kind joiner
  | _, _ => .plain

def step (c : Char) (after : Int × Context) : Int × Context :=
  let (total, context) := after
  if context.selector = .emoji ∧ isSelectable c then
    let inSequence := context.following = .joined ∨ context.following = .joinedKeycap
    (total + (if inSequence then 0 else 2), ⟨.emoji, .none⟩)
  else if context.selector = .text ∧ isTextSelectable c then (total + 1, Context.plain)
  else
    let (width, next) := before (unselected context) c
    (total + width, next)

end Columns

/-- The width of one character; a control character has none. -/
def charColumns (c : Char) : Nat :=
  if Columns.isControl c then 0 else Columns.ownWidth c

/-- The width of a text; a control character takes one column, a carriage return with its line
feed takes one together. -/
def columns (text : List Char) : Nat :=
  (text.foldr Columns.step (0, Columns.Context.plain)).1.toNat

end TestHistory.Text
