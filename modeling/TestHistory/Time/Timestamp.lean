import TestHistory.Decimal.Reading
import TestHistory.Text.Blank
import TestHistory.Time.Instant

/-!
# Timestamps

A timestamp is a date and a time of day with an offset from UTC. `Timestamp.parse` reads two
forms: RFC 3339, and a date and time without an offset, which is taken as UTC and whose numbers
may have fewer digits.
-/

namespace TestHistory.Time

structure Timestamp where
  date : Date
  hour : Nat
  minute : Nat
  second : Nat
  nanos : Nat
  /-- Seconds east of UTC. -/
  offset : Int
  deriving DecidableEq, Repr

namespace Timestamp

open TestHistory.Decimal (isDigit ofDecimal)

def instant (t : Timestamp) : Instant :=
  ⟨t.date.dayNumber * 86400 + (t.hour * 3600 + t.minute * 60 + t.second : Nat) - t.offset, t.nanos⟩

/-- Date, hour and minute in the timestamp's own offset. -/
def shortText (t : Timestamp) : String :=
  String.ofList (dateText t.date ++ ' ' :: padded 2 t.hour ++ ':' :: padded 2 t.minute)

/-- A number and the text after it. -/
abbrev Read := Option (Nat × List Char)

/-- Between `least` and `most` digits, as many as there are. -/
def digits (least most : Nat) (text : List Char) : Read :=
  let run := (text.take most).takeWhile isDigit
  if run.length < least then none else some (ofDecimal run, text.drop run.length)

/-- The text after a character that has to stand first. -/
def expect (c : Char) : List Char → Option (List Char)
  | d :: rest => if d = c then some rest else none
  | [] => none

/-- Nanoseconds after a point: one digit or more, those after the ninth dropped. -/
def nanoseconds (text : List Char) : Read :=
  let run := text.takeWhile isDigit
  if run.isEmpty then none
  else
    let kept := run.take 9
    some (ofDecimal kept * Nat.pow 10 (9 - kept.length), text.dropWhile isDigit)

def fraction : List Char → Read
  | '.' :: rest => nanoseconds rest
  | rest => some (0, rest)

/-- `Z`, or a sign with hours and minutes below one day. -/
def zone : List Char → Option (Int × List Char)
  | [] => none
  | c :: rest =>
    if c = 'Z' ∨ c = 'z' then some (0, rest)
    else do
      let sign : Int ← if c = '+' then some 1 else if c = '-' ∨ c = '−' then some (-1) else none
      let (hours, rest) ← digits 2 2 rest
      let rest ← expect ':' rest
      let (minutes, rest) ← digits 2 2 rest
      if hours < 24 ∧ minutes < 60 then some (sign * (hours * 3600 + minutes * 60 : Nat), rest)
      else none

/-- Second 60 is the last second of its minute with a billion nanoseconds more. -/
def assemble (date : Date) (hour minute second nanos : Nat) (offset : Int) : Option Timestamp :=
  if date.isValid ∧ hour < 24 ∧ minute < 60 ∧ second ≤ 60 then
    if second = 60 then some ⟨date, hour, minute, 59, nanos + billion, offset⟩
    else some ⟨date, hour, minute, second, nanos, offset⟩
  else none

def ofRfc3339 (text : List Char) : Option Timestamp := do
  let (year, text) ← digits 4 4 text
  let text ← expect '-' text
  let (month, text) ← digits 2 2 text
  let text ← expect '-' text
  let (day, text) ← digits 2 2 text
  let text ← (expect 'T' text).or ((expect 't' text).or (expect ' ' text))
  let (hour, text) ← digits 2 2 text
  let text ← expect ':' text
  let (minute, text) ← digits 2 2 text
  let text ← expect ':' text
  let (second, text) ← digits 2 2 text
  let (nanos, text) ← fraction text
  let (offset, text) ← zone text
  if text.isEmpty then assemble ⟨year, month, day⟩ hour minute second nanos offset else none

/-- One or two digits after any blanks. -/
def looseNumber (text : List Char) : Read :=
  digits 1 2 (Text.trimStart text)

/-- A year of up to four digits, or of any length after a sign. -/
def looseYear (text : List Char) : Option (Int × List Char) :=
  match Text.trimStart text with
  | '-' :: rest => (digits 1 rest.length rest).map fun (n, rest) => (-(n : Int), rest)
  | '+' :: rest => (digits 1 rest.length rest).map fun (n, rest) => ((n : Int), rest)
  | rest => (digits 1 4 rest).map fun (n, rest) => ((n : Int), rest)

def ofLocal (text : List Char) : Option Timestamp := do
  let (year, text) ← looseYear text
  let text ← expect '-' text
  let (month, text) ← looseNumber text
  let text ← expect '-' text
  let (day, text) ← looseNumber text
  let text ← expect 'T' text
  let (hour, text) ← looseNumber text
  let text ← expect ':' text
  let (minute, text) ← looseNumber text
  let text ← expect ':' text
  let (second, text) ← looseNumber text
  let (nanos, text) ← fraction text
  if text.isEmpty then assemble ⟨year, month, day⟩ hour minute second nanos 0 else none

/-- Blanks around the timestamp do not count. -/
def parse (text : String) : Option Timestamp :=
  let body := Text.trimChars text.toList
  (ofRfc3339 body).or (ofLocal body)

end Timestamp

/-- The instant that a text names. -/
def parseInstant (text : String) : Option Instant :=
  (Timestamp.parse text).map Timestamp.instant

/-- A timestamp to the minute; any other text stays as it is. -/
def shortDate (text : String) : String :=
  match Timestamp.parse text with
  | some t => t.shortText
  | none => text

end TestHistory.Time
