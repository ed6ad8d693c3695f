import TestHistory.Decimal.Reading

/-!
# The tokens of JSON text

`tokens?` reads a text character by character. Words that are not quoted stay as they stand;
quoted texts are decoded, and one with half a surrogate pair in it is a token without content.
-/

namespace TestHistory.Json

inductive Token where
  | openArray
  | closeArray
  | openObject
  | closeObject
  | comma
  | colon
  /-- A number or one of the words `null`, `true`, `false`, not yet looked at. -/
  | bare (word : List Char)
  | quoted (content : Option String)
  deriving DecidableEq

/-- The place inside an escape sequence. -/
inductive Escape where
  | none
  | backslash
  | hex (missing value : Nat)
  deriving DecidableEq

/-- A quoted text that is being read. -/
structure Quoted where
  /-- The last character first. -/
  read : List Char
  /-- The upper half of a surrogate pair, waiting for its lower half. -/
  upper : Option Nat
  /-- No half of a pair has stood alone so far. -/
  valid : Bool
  escape : Escape
  deriving DecidableEq

inductive Mode where
  | between
  /-- The last character first. -/
  | bare (read : List Char)
  | quoted (text : Quoted)
  deriving DecidableEq

structure Lexer where
  /-- The last token first. -/
  tokens : List Token
  mode : Mode
  deriving DecidableEq

namespace Quoted

def empty : Quoted :=
  ⟨[], none, true, .none⟩

/-- A character that is no lower half leaves a waiting upper half alone. -/
def push (q : Quoted) (c : Char) : Quoted :=
  ⟨c :: q.read, none, q.valid && q.upper.isNone, .none⟩

/-- The unit of a `\u` escape. -/
def pushUnit (q : Quoted) (unit : Nat) : Quoted :=
  if 0xD800 ≤ unit ∧ unit < 0xDC00 then ⟨q.read, some unit, q.valid && q.upper.isNone, .none⟩
  else if 0xDC00 ≤ unit ∧ unit < 0xE000 then
    match q.upper with
    | some upper =>
      ⟨Char.ofNat (0x10000 + (upper - 0xD800) * 0x400 + (unit - 0xDC00)) :: q.read, none, q.valid,
        .none⟩
    | none => ⟨q.read, none, false, .none⟩
  else q.push (Char.ofNat unit)

def escaped? (q : Quoted) (c : Char) : Option Quoted :=
  if c = '"' ∨ c = '\\' ∨ c = '/' then some (q.push c)
  else if c = 'b' then some (q.push (Char.ofNat 8))
  else if c = 'f' then some (q.push (Char.ofNat 12))
  else if c = 'n' then some (q.push '\n')
  else if c = 'r' then some (q.push '\r')
  else if c = 't' then some (q.push '\t')
  else if c = 'u' then some { q with escape := .hex 4 0 }
  else none

def hexDigit? (q : Quoted) (missing value : Nat) (c : Char) : Option Quoted :=
  match Decimal.digitIn? 16 c with
  | none => none
  | some d =>
    if missing = 1 then some (q.pushUnit (value * 16 + d))
    else some { q with escape := .hex (missing - 1) (value * 16 + d) }

def content (q : Quoted) : Option String :=
  if q.valid && q.upper.isNone then some (String.ofList q.read.reverse) else none

end Quoted

namespace Lexer

def start : Lexer :=
  ⟨[], .between⟩

def isBlank (c : Char) : Bool :=
  c = ' ' || c = '\t' || c = '\n' || c = '\r'

def punctuation? (c : Char) : Option Token :=
  if c = '[' then some .openArray
  else if c = ']' then some .closeArray
  else if c = '{' then some .openObject
  else if c = '}' then some .closeObject
  else if c = ',' then some .comma
  else if c = ':' then some .colon
  else none

/-- A character that does not continue a bare word. -/
def between (tokens : List Token) (c : Char) : Lexer :=
  if isBlank c then ⟨tokens, .between⟩
  else if c = '"' then ⟨tokens, .quoted Quoted.empty⟩
  else match punctuation? c with
    | some token => ⟨token :: tokens, .between⟩
    | none => ⟨tokens, .bare [c]⟩

def isBare (c : Char) : Bool :=
  !isBlank c && c ≠ '"' && (punctuation? c).isNone

def inQuotes (tokens : List Token) (q : Quoted) (c : Char) : Option Lexer :=
  match q.escape with
  | .backslash => (q.escaped? c).map fun q => ⟨tokens, .quoted q⟩
  | .hex missing value => (q.hexDigit? missing value c).map fun q => ⟨tokens, .quoted q⟩
  | .none =>
    if c = '"' then some ⟨.quoted q.content :: tokens, .between⟩
    else if c = '\\' then some ⟨tokens, .quoted { q with escape := .backslash }⟩
    else if c.toNat < 0x20 then none
    else some ⟨tokens, .quoted (q.push c)⟩

def step (l : Lexer) (c : Char) : Option Lexer :=
  match l.mode with
  | .between => some (between l.tokens c)
  | .bare read =>
    if isBare c then some ⟨l.tokens, .bare (c :: read)⟩
    else some (between (.bare read.reverse :: l.tokens) c)
  | .quoted q => inQuotes l.tokens q c

def run : Lexer → List Char → Option Lexer
  | l, [] => some l
  | l, c :: text =>
    match step l c with
    | some next => run next text
    | none => none

/-- A bare word may end with the text, a quoted one may not. -/
def finish (l : Lexer) : Option (List Token) :=
  match l.mode with
  | .between => some l.tokens.reverse
  | .bare read => some (.bare read.reverse :: l.tokens).reverse
  | .quoted _ => none

end Lexer

def tokens? (text : List Char) : Option (List Token) :=
  (Lexer.run Lexer.start text).bind Lexer.finish

end TestHistory.Json
