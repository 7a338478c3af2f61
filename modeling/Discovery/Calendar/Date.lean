/-!
# Dates

Days are counted from the first of January 1970, and a date is the year, month and day of such a
count in the Gregorian calendar, extended to all years. `Date.toDays` counts the days up to a date,
`Date.ofDays` finds the date of a count.

Years are found by estimate: four hundred years have 146097 days, so the quotient by their average
length misses the year by one at the most.
-/

namespace Discovery

/-- A date of the Gregorian calendar. -/
structure Date where
  year : Int
  /-- From one to twelve. -/
  month : Nat
  /-- From one. -/
  day : Nat
deriving Repr, DecidableEq

namespace Date

def isLeapYear (year : Int) : Bool :=
  year % 4 = 0 && (year % 100 ≠ 0 || year % 400 = 0)

/-- The lengths of the months of a year. -/
def monthLengths (year : Int) : List Nat :=
  [31, if isLeapYear year then 29 else 28, 31, 30, 31, 30, 31, 31, 30, 31, 30, 31]

/-- How many days lie between the first days of year zero and of the given year. -/
def daysBeforeYear (year : Int) : Int :=
  365 * year + (year + 3) / 4 - (year + 99) / 100 + (year + 399) / 400

/-- How many days of a year lie before the given month. -/
def daysBeforeMonth (year : Int) (month : Nat) : Nat :=
  ((monthLengths year).take (month - 1)).foldl (· + ·) 0

/-- The count of the first day of year zero is minus this many. -/
def epochDays : Int := 719528

def isValid (d : Date) : Bool :=
  1 ≤ d.month && d.month ≤ 12 && 1 ≤ d.day && d.day ≤ (monthLengths d.year).getD (d.month - 1) 0

/-- The days from the beginning of 1970 to the date. -/
def toDays (d : Date) : Int :=
  daysBeforeYear d.year + daysBeforeMonth d.year d.month + (d.day - 1 : Nat) - epochDays

/-- The year in which a day lies, counted from the beginning of year zero. -/
def yearOf (days : Int) : Int :=
  -- four hundred years have 146097 days
  let estimate := days * 400 / 146097
  -- the leap days of a part of the four hundred years may lie unevenly
  if days < daysBeforeYear estimate then estimate - 1
  else if daysBeforeYear (estimate + 1) ≤ days then estimate + 1
  else estimate

/-- The month and day of a day of the year, counted from zero; the months begin with the given
one. -/
def inMonths : (month : Nat) → (lengths : List Nat) → (day : Nat) → Nat × Nat
  | month, [], day => (month, day + 1)
  | month, length :: later, day =>
    if day < length then (month, day + 1) else inMonths (month + 1) later (day - length)

def ofDays (days : Int) : Date :=
  let sinceZero := days + epochDays
  let year := yearOf sinceZero
  let (month, day) := inMonths 1 (monthLengths year) (sinceZero - daysBeforeYear year).toNat
  ⟨year, month, day⟩

/-- The year that is found begins no later than the day, and the next one later. -/
theorem daysBeforeYear_yearOf (days : Int) :
    daysBeforeYear (yearOf days) ≤ days ∧ days < daysBeforeYear (yearOf days + 1) := by
  unfold yearOf
  generalize estimated : days * 400 / 146097 = estimate
  dsimp only
  split
  · rw [Int.sub_add_cancel]
    unfold daysBeforeYear at *
    omega
  · split
    · unfold daysBeforeYear at *
      omega
    · -- the two tests of `yearOf` are the two bounds
      omega

end Date

end Discovery
