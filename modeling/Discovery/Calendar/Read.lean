import Discovery.Calendar.Instant
import Discovery.Text.Cut
import Discovery.Text.Numeral
import Discovery.Text.WhiteSpace

/-!
# Reading instants

Two readers for what `Instant.toMessage` and `Instant.toZulu` write and for the spellings that other
writers use.

* `ofMessage?` is the strict form of messages, RFC 3339: four digits for the year, two for each other
  number, `T`, `t` or a blank between date and time, a fraction of any length (what follows the ninth
  digit is cut off), and a zone with hours up to 23 and minutes up to 59.
* `ofLenient?` is the form of JSON: a year may have a sign and then any number of digits, other
  numbers may have one digit, blanks may stand before numbers and marks, and the zone may be written
  `UTC` or without its colon.

A sixtieth second is a leap second: it counts as the fifty-ninth with a second's worth of
nanoseconds more.

## What is assumed

Both readers belong to the calendar package, and follow its documentation:

* the strict one reads the profile of RFC 3339 and nothing beyond it, apart from the blank that may stand
  for `T` and the true minus sign that a zone may have;
* the lenient one reads what the package accepts for the default form of an instant in UTC;
* both refuse a date that is none, a time of day that is none, a zone of a day or more, and what lies
  outside the calendar on either side of the zone.
-/

namespace Discovery.Instant

/-! ## Parts -/

/-- What a date and time consist of, with the zone's offset to UTC in seconds. -/
structure Parts where
  date : Date
  hour : Nat
  minute : Nat
  second : Nat
  nanos : Nat
  offset : Int
deriving Repr, DecidableEq

/-- The instant of the parts, if there is such a date and time. -/
def Parts.instant? (p : Parts) : Option Instant :=
  if p.date.isValid && p.hour < 24 && p.minute < 60 && p.second ≤ 60
      && p.offset.natAbs < secondsPerDay then
    -- the second 60 is kept as the second 59 with more nanoseconds than a second has
    let ofDay := p.hour * 3600 + p.minute * 60 + min p.second 59
    let inZone := p.date.toDays * secondsPerDay + ofDay
    -- an instant near the end of the calendar may lie beyond it on one side of the zone
    if inCalendar inZone && inCalendar (inZone - p.offset) then
      some ⟨inZone - p.offset, p.nanos + if p.second = 60 then nanosPerSecond else 0⟩
    else none
  else none

/-! ## Pieces of both forms -/

/-- Reads a number of at least `least` and at most `most` digits. -/
def readNumber? (least most : Nat) (cs : List Char) : Option (Nat × List Char) :=
  let digits := (cs.take most).takeWhile Char.isDigit
  if least ≤ digits.length then some (Text.digitsValue digits, cs.drop digits.length) else none

def readSeparator? : List Char → Option (List Char)
  | [] => none
  | c :: rest => if c = 'T' ∨ c = 't' ∨ c = ' ' then some rest else none

/-- Reads a fraction of a second as nanoseconds, or none: at least one digit after a point, of which
nine count. -/
def readFraction? : List Char → Option (Nat × List Char)
  | '.' :: rest =>
    let digits := rest.takeWhile Char.isDigit
    if digits = [] then none
    else
      let counted := digits.take 9
      some (Text.digitsValue counted * Nat.pow 10 (9 - counted.length), rest.dropWhile Char.isDigit)
  | rest => some (0, rest)

/-- Reads the sign of a zone's offset: is it west of UTC? -/
def readZoneSign? : List Char → Option (Bool × List Char)
  | [] => none
  | c :: rest =>
    if c = '+' then some (false, rest)
    else if c = '-' ∨ c = '\u2212' then some (true, rest)
    else none

/-- Reads a zone as its offset in seconds; `readColon?` reads what separates hours and minutes. -/
def readZone? (readColon? : List Char → Option (List Char)) (cs : List Char) :
    Option (Int × List Char) :=
  match cs with
  | 'Z' :: rest => some (0, rest)
  | 'z' :: rest => some (0, rest)
  | cs => do
    let (west, cs) ← readZoneSign? cs
    let (hours, cs) ← readNumber? 2 2 cs
    let cs ← readColon? cs
    let (minutes, cs) ← readNumber? 2 2 cs
    if 60 ≤ minutes then none
    else
      let size : Int := hours * 3600 + minutes * 60
      return (if west then -size else size, cs)

/-! ## The strict form -/

/-- Reads an instant in the strict form. -/
def ofMessage? (s : String) : Option Instant := do
  let cs := s.toList
  let (year, cs) ← readNumber? 4 4 cs
  let cs ← Text.readMark? '-' cs
  let (month, cs) ← readNumber? 2 2 cs
  let cs ← Text.readMark? '-' cs
  let (day, cs) ← readNumber? 2 2 cs
  let cs ← readSeparator? cs
  let (hour, cs) ← readNumber? 2 2 cs
  let cs ← Text.readMark? ':' cs
  let (minute, cs) ← readNumber? 2 2 cs
  let cs ← Text.readMark? ':' cs
  let (second, cs) ← readNumber? 2 2 cs
  let (nanos, cs) ← readFraction? cs
  let (offset, cs) ← readZone? (Text.readMark? ':') cs
  -- nothing may follow the zone
  if cs = [] then
    Parts.instant? ⟨⟨year, month, day⟩, hour, minute, second, nanos, offset⟩
  else none

/-! ## The lenient form -/

/-- Reads a year: up to four digits, or a sign and any number of digits. -/
def readYear? (cs : List Char) : Option (Int × List Char) :=
  match Text.skipSpace cs with
  -- a year with a sign may have any number of digits
  | '+' :: rest => (readNumber? 1 rest.length rest).map fun (n, cs) => ((n : Int), cs)
  | '-' :: rest => (readNumber? 1 rest.length rest).map fun (n, cs) => (-(n : Int), cs)
  | rest => (readNumber? 1 4 rest).map fun (n, cs) => ((n : Int), cs)

/-- Reads a number of one or two digits, blanks before it. -/
def readShort? (cs : List Char) : Option (Nat × List Char) :=
  readNumber? 1 2 (Text.skipSpace cs)

/-- Reads a mark, blanks before it. -/
def readSpacedMark? (mark : Char) (cs : List Char) : Option (List Char) :=
  Text.readMark? mark (Text.skipSpace cs)

/-- Passes over the colons and blanks that may separate the hours and minutes of a zone. -/
def skipColons? (cs : List Char) : Option (List Char) :=
  some (cs.dropWhile fun c => c = ':' || Text.isWhiteSpace c)

/-- Reads a zone, which may be called UTC. -/
def readNamedZone? (cs : List Char) : Option (Int × List Char) :=
  if (cs.take 3).map Char.toUpper = ['U', 'T', 'C'] then some (0, cs.drop 3)
  else readZone? skipColons? cs

/-- Reads an instant in the lenient form. -/
def ofLenient? (s : String) : Option Instant := do
  let cs := s.toList
  let (year, cs) ← readYear? cs
  let cs ← readSpacedMark? '-' cs
  let (month, cs) ← readShort? cs
  let cs ← readSpacedMark? '-' cs
  let (day, cs) ← readShort? cs
  let cs ← readSeparator? cs
  let (hour, cs) ← readShort? cs
  let cs ← readSpacedMark? ':' cs
  let (minute, cs) ← readShort? cs
  let cs ← readSpacedMark? ':' cs
  let (second, cs) ← readShort? cs
  let (nanos, cs) ← readFraction? cs
  let (offset, cs) ← readNamedZone? (Text.skipSpace cs)
  -- nothing may follow the zone but blanks
  if Text.skipSpace cs = [] then
    Parts.instant? ⟨⟨year, month, day⟩, hour, minute, second, nanos, offset⟩
  else none

end Discovery.Instant
