import Discovery.Calendar.Date

/-!
# Instants and lengths of time

An `Instant` counts seconds from the beginning of 1970, and nanoseconds from that second on. The
nanoseconds reach beyond a whole second during a leap second, which is the second after the fifty-ninth
of its minute. A length of time is a whole number of nanoseconds.

The calendar ends: an instant lies in the years from -262143 to 262142, and adding a length that leads
out of them has no result.

## What is assumed

Dates and times are those of a calendar package that is not part of this library. What is assumed of it
is what its documentation says, and the definitions below are that:

* the range of the years, and that a sum outside it is refused and neither cut off nor wrapped;
* that a leap second is kept as a second's worth of nanoseconds more, after the fifty-ninth second of any
  minute, and that no table says which minutes have one;
* that a sum beginning in a leap second takes it to be the only one there is: time that leads out of it
  is counted from the seconds on either side of it.
-/

namespace Discovery

def nanosPerSecond : Nat := 1000000000

def secondsPerDay : Nat := 86400

/-- A point in time. -/
structure Instant where
  /-- Whole seconds since the beginning of 1970. -/
  seconds : Int
  /-- Nanoseconds since that second, a second's worth and more during a leap second. -/
  nanos : Nat
deriving Repr, DecidableEq

/-- A length of time that is not negative. -/
structure Duration where
  nanos : Nat
deriving Repr, DecidableEq

namespace Duration

def ofSeconds (n : Nat) : Duration := ⟨n * nanosPerSecond⟩

def seconds (d : Duration) : Nat := d.nanos / nanosPerSecond

def subsecNanos (d : Duration) : Nat := d.nanos % nanosPerSecond

end Duration

namespace Instant

def isLeap (t : Instant) : Bool :=
  nanosPerSecond ≤ t.nanos

def isBefore (t u : Instant) : Bool :=
  t.seconds < u.seconds || (t.seconds = u.seconds && t.nanos < u.nanos)

def minSeconds : Int := Date.toDays ⟨-262143, 1, 1⟩ * secondsPerDay

def maxSeconds : Int := Date.toDays ⟨262142, 12, 31⟩ * secondsPerDay + (secondsPerDay - 1)

def inCalendar (seconds : Int) : Bool :=
  minSeconds ≤ seconds && seconds ≤ maxSeconds

/-- The instant that a count of nanoseconds leads to from the beginning of a second, if it is in the
calendar. -/
def ofCount? (seconds : Int) (nanos : Int) : Option Instant :=
  let whole := seconds + nanos / nanosPerSecond
  if inCalendar whole then some ⟨whole, (nanos % nanosPerSecond).toNat⟩ else none

/-- The instant a number of nanoseconds later, or earlier if it is negative. Within a leap second
only the nanoseconds move. What leads out of it forwards passes over it in no time; what leads out of
it backwards by a second or more begins from the second after it. -/
def later? (t : Instant) (span : Int) : Option Instant :=
  if t.isLeap then
    let beyond : Int := t.nanos - nanosPerSecond
    let wholeSeconds := span.tdiv nanosPerSecond
    let part := span.tmod nanosPerSecond
    -- forwards, the leap second is left as if it were the second before it
    if 0 < wholeSeconds ∨ (0 < part ∧ nanosPerSecond ≤ beyond + part) then
      ofCount? t.seconds (beyond + span)
    -- backwards, as if it were the second after it
    else if wholeSeconds < 0 then ofCount? (t.seconds + 1) (beyond + span)
    -- less than a second away the nanoseconds alone move
    else some ⟨t.seconds, (t.nanos + part).toNat⟩
  else ofCount? t.seconds (t.nanos + span)

/-- The nanoseconds from the beginning of 1970, as if there were no leap seconds. -/
def count (t : Instant) : Int :=
  t.seconds * nanosPerSecond + t.nanos

end Instant

end Discovery
