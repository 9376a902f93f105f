import StatusRollup.Instant
import StatusRollup.Text.Blank
import StatusRollup.Text.Digits

/-!
# The written form of an instant

An instant is written in universal time as `YYYY-MM-DDTHH:MM:SSZ`, with the fewest fraction digits
out of 0, 3, 6 and 9 that are exact, and with a sign before a year that four digits cannot hold.

Reading is more generous. White space may stand before each number, around the offset and at either
end; numbers need no leading zeros; a space or a lower-case letter may separate date and time; the
offset may be anything short of a day; fraction digits after the ninth are dropped; and second 60 is
a leap second in any minute.

* `Instant.write` and `Instant.read?` are the two directions.
* Every step of the reader takes the text that is left and returns what it read with the new rest.
-/

namespace StatusRollup

namespace Instant

/-! ### Writing -/

/-- Four digits for a year that they can hold; otherwise the sign and at least four digits. -/
def writeYear (year : Int) : List Char :=
  if 0 ≤ year ∧ year ≤ 9999 then Text.fixed 4 year.toNat
  else (if year < 0 then '-' else '+') :: Text.padded 4 year.natAbs

/-- The fraction of a second with its point, in the fewest of 0, 3, 6 and 9 digits. -/
def writeFraction (nanos : Nat) : List Char :=
  if nanos = 0 then []
  else if nanos % 1000000 = 0 then '.' :: Text.fixed 3 (nanos / 1000000)
  else if nanos % 1000 = 0 then '.' :: Text.fixed 6 (nanos / 1000)
  else '.' :: Text.fixed 9 nanos

/-- The characters of the written form. -/
def chars (t : Instant) : List Char :=
  let date := Date.ofDayNumber t.day
  let leap := t.nano / nanosPerSecond
  writeYear date.year ++ '-' :: Text.fixed 2 date.month ++ '-' :: Text.fixed 2 date.day ++
    'T' :: Text.fixed 2 (t.second / 3600) ++ ':' :: Text.fixed 2 (t.second / 60 % 60) ++
    ':' :: Text.fixed 2 (t.second % 60 + leap) ++ writeFraction (t.nano % nanosPerSecond) ++ ['Z']

/-- The written form of an instant. -/
def write (t : Instant) : String := String.ofList t.chars

/-! ### Reading -/

/-- A number of one to `width` digits. -/
def readDigits (width : Nat) (cs : List Char) : Option (Nat × List Char) :=
  let ds := (cs.take width).takeWhile Char.isDigit
  if ds.isEmpty then none else some (Text.valueOf ds, cs.drop ds.length)

/-- A number of one to `width` digits after white space. -/
def readNumber (width : Nat) (cs : List Char) : Option (Nat × List Char) :=
  readDigits width (Text.skipBlank cs)

/-- A year: up to four digits, or a sign and any number of them. -/
def readYear (cs : List Char) : Option (Int × List Char) :=
  match Text.skipBlank cs with
  | '-' :: rest => (readDigits rest.length rest).map fun (n, rest) ↦ (-(n : Int), rest)
  | '+' :: rest => (readDigits rest.length rest).map fun (n, rest) ↦ ((n : Int), rest)
  | rest => (readDigits 4 rest).map fun (n, rest) ↦ ((n : Int), rest)

/-- One character after white space. -/
def readMark (mark : Char) (cs : List Char) : Option (List Char) :=
  match Text.skipBlank cs with
  | c :: rest => if c = mark then some rest else none
  | [] => none

/-- The fraction of a second in nanoseconds; without a point there is none. -/
def readFraction : List Char → Option (Nat × List Char)
  | '.' :: rest =>
    let ds := rest.takeWhile Char.isDigit
    let kept := ds.take 9
    if ds.isEmpty then none
    else some (Text.valueOf kept * Nat.pow 10 (9 - kept.length), rest.drop ds.length)
  | cs => some (0, cs)

/-- Two digits, the first one below `limit`. -/
def readPair (limit : Nat) : List Char → Option (Nat × List Char)
  | a :: b :: rest =>
    if a.isDigit ∧ b.isDigit ∧ Text.digitValue a < limit then
      some (10 * Text.digitValue a + Text.digitValue b, rest)
    else
      none
  | _ => none

/-- Hours and minutes of an offset, colons and white space between them, in seconds. -/
def readOffsetParts (cs : List Char) : Option (Nat × List Char) := do
  let (hours, cs) ← readPair 10 cs
  let (minutes, cs) ← readPair 6 (cs.dropWhile fun c ↦ c == ':' || Text.isBlank c)
  some (hours * 3600 + minutes * 60, cs)

/-- An offset from universal time in seconds, which the reader takes off the local time. -/
def readOffset (cs : List Char) : Option (Int × List Char) :=
  match cs with
  | 'Z' :: rest | 'z' :: rest => some (0, rest)
  | '+' :: rest => (readOffsetParts rest).map fun (n, rest) ↦ ((n : Int), rest)
  | '-' :: rest | '\u2212' :: rest => (readOffsetParts rest).map fun (n, rest) ↦ (-(n : Int), rest)
  | u :: t :: c :: rest =>
    if u.toUpper = 'U' ∧ t.toUpper = 'T' ∧ c.toUpper = 'C' then some (0, rest) else none
  | _ => none

/-- The date at the start of a text. -/
def readDate (cs : List Char) : Option (Date × List Char) := do
  let (year, cs) ← readYear cs
  let cs ← readMark '-' cs
  let (month, cs) ← readNumber 2 cs
  let cs ← readMark '-' cs
  let (day, cs) ← readNumber 2 cs
  some (⟨year, month, day⟩, cs)

/-- The time of day at the start of a text: the second of the day, up to 59 in its minute, and the
nanoseconds, from a thousand million on in a leap second. -/
def readTime (cs : List Char) : Option (Nat × Nat × List Char) := do
  let (hour, cs) ← readNumber 2 cs
  let cs ← readMark ':' cs
  let (minute, cs) ← readNumber 2 cs
  let cs ← readMark ':' cs
  let (second, cs) ← readNumber 2 cs
  let (nanos, cs) ← readFraction cs
  if hour ≤ 23 ∧ minute ≤ 59 ∧ second ≤ 60 then
    if second = 60 then
      some (hour * 3600 + minute * 60 + 59, nanos + nanosPerSecond, cs)
    else
      some (hour * 3600 + minute * 60 + second, nanos, cs)
  else
    none

/-- The instant of a local date and time, its offset taken off. Both the local date and the
resulting one have to be representable. -/
def ofLocal? (date : Date) (second nano : Nat) (offset : Int) : Option Instant :=
  let day := date.dayNumber
  let shifted := second - offset
  if date.Exists ∧ Date.firstDay ≤ day ∧ day ≤ Date.lastDay ∧ offset.natAbs < 86400 then
    ofParts? (day + shifted / 86400) (shifted % 86400).toNat nano
  else
    none

/-- Reads a whole text as an instant. -/
def readChars? (cs : List Char) : Option Instant := do
  let (date, cs) ← readDate cs
  let cs ← match cs with
    | 'T' :: rest | 't' :: rest | ' ' :: rest => some rest
    | _ => none
  let (second, nano, cs) ← readTime cs
  let (offset, cs) ← readOffset (Text.skipBlank cs)
  if (Text.skipBlank cs).isEmpty then ofLocal? date second nano offset else none

/-- Reads a text as an instant. -/
def read? (s : String) : Option Instant := readChars? s.toList

end Instant

end StatusRollup
