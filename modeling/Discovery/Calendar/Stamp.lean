import Discovery.Calendar.Instant

/-!
# Writing instants

An instant is written as date, `T`, time of day and zone, always in UTC. The fraction has no digits,
three, six or nine, the fewest that are exact. Years from 0 to 9999 have four digits; the others have
a sign before at least four. A leap second is the sixtieth of its minute.

The zone is written as `+00:00` in messages and as `Z` in JSON and in what is shown to people.

It is assumed of the calendar package that it writes the RFC 3339 form of an instant so, and that it does
for every instant: a year outside the four digits of that form is written with its sign.
-/

namespace Discovery.Instant

/-- The digits of a number, zeros before them up to the width. -/
def padded (width n : Nat) : List Char :=
  let digits := Nat.toDigits 10 n
  List.replicate (width - digits.length) '0' ++ digits

def yearDigits (year : Int) : List Char :=
  if 0 ≤ year ∧ year ≤ 9999 then padded 4 year.toNat
  else (if year < 0 then '-' else '+') :: padded 4 year.natAbs

/-- The fraction of a second, with its point. -/
def fractionDigits (nanos : Nat) : List Char :=
  if nanos = 0 then []
  else if nanos % 1000000 = 0 then '.' :: padded 3 (nanos / 1000000)
  else if nanos % 1000 = 0 then '.' :: padded 6 (nanos / 1000)
  else '.' :: padded 9 nanos

/-- The date and the time of day in UTC. -/
def dateTimeDigits (t : Instant) : List Char :=
  let date := Date.ofDays (t.seconds / secondsPerDay)
  let ofDay := (t.seconds % secondsPerDay).toNat
  let second := ofDay % 60 + if t.isLeap then 1 else 0
  yearDigits date.year ++ '-' :: padded 2 date.month ++ '-' :: padded 2 date.day
    ++ 'T' :: padded 2 (ofDay / 3600) ++ ':' :: padded 2 (ofDay / 60 % 60) ++ ':' :: padded 2 second
    ++ fractionDigits (t.nanos % nanosPerSecond)

/-- The instant with the zone as an offset, as in messages. -/
def toMessage (t : Instant) : String :=
  String.ofList (t.dateTimeDigits ++ ['+', '0', '0', ':', '0', '0'])

/-- The instant with the zone as a letter, as in JSON and for people. -/
def toZulu (t : Instant) : String :=
  String.ofList (t.dateTimeDigits ++ ['Z'])

end Discovery.Instant
