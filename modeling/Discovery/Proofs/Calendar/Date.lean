import Discovery.Calendar.Date
import Mathlib.Algebra.GroupWithZero.Nat

/-!
# Dates of counts of days

Every count of days is the count of one date: the year is the one that the days have reached, and what they go
beyond its beginning is found among the lengths of its months.

* `daysBeforeYear_succ`: a year has the days of its months;
* `isValid_ofDays`: there is such a day;
* `toDays_ofDays`: it has the count that it was found for;
* `le_year_ofDays_iff`, `year_ofDays`: it lies in the years that begin before and after the count.
-/

namespace Discovery.Date

variable {year year' days : Int}

/-! ## Years -/

/-- A year has as many days as its months have. -/
theorem daysBeforeYear_succ (year : Int) :
    daysBeforeYear (year + 1) = daysBeforeYear year + (monthLengths year).sum := by
  have sum : (monthLengths year).sum = 365 + (isLeapYear year).toNat := by
    unfold monthLengths
    cases isLeapYear year <;> rfl
  -- the rule as a sum, so that it meets the quotients of `daysBeforeYear` in one linear goal
  have leapDay : ((isLeapYear year).toNat : Int) =
      (if year % 4 = 0 then 1 else 0) - (if year % 100 = 0 then 1 else 0) +
        if year % 400 = 0 then 1 else 0 := by
    unfold isLeapYear
    by_cases fourth : year % 4 = 0
    · by_cases hundredth : year % 100 = 0
      · by_cases leap : year % 400 = 0 <;> simp [fourth, hundredth, leap]
      · have common : year % 400 ≠ 0 := by omega
        simp [fourth, hundredth, common]
    · have hundredth : year % 100 ≠ 0 := by omega
      have common : year % 400 ≠ 0 := by omega
      simp [fourth, hundredth, common]
  rw [sum, Int.natCast_add, leapDay]
  unfold daysBeforeYear
  omega

/-- Later years begin later. -/
theorem daysBeforeYear_mono (later : year ≤ year') : daysBeforeYear year ≤ daysBeforeYear year' := by
  unfold daysBeforeYear
  omega

/-! ## Months -/

/-- A day of the year is a day of the month that is found, as many days after the beginning of the year as the
months before have and the days of the month before it. -/
theorem inMonths_eq (month : Nat) {day : Nat} {lengths : List Nat} (within : day < lengths.sum) :
    ∃ passed rest, inMonths month lengths day = (month + passed, rest + 1) ∧ passed < lengths.length ∧
      rest < lengths.getD passed 0 ∧ day = (lengths.take passed).sum + rest := by
  induction lengths generalizing month day with
  | nil => cases within
  | cons length later ih =>
    rw [inMonths]
    split
    · next inFirst => exact ⟨0, day, rfl, Nat.zero_lt_succ _, inFirst, (Nat.zero_add _).symm⟩
    · next beyond =>
      rw [List.sum_cons] at within
      have withinLater : day - length < later.sum := by omega
      -- the first month is passed, and the rest of the days is one of the later months'
      obtain ⟨passed, rest, found, isMonth, short, sum⟩ := ih (month + 1) withinLater
      refine ⟨passed + 1, rest, ?_, Nat.succ_lt_succ isMonth, short, ?_⟩
      · rw [found, Nat.add_assoc, Nat.add_comm 1]
      · rw [List.take_succ_cons, List.sum_cons]
        omega

/-- No month is longer than thirty-one days. -/
theorem getD_monthLengths_le (year : Int) (passed : Nat) : (monthLengths year).getD passed 0 ≤ 31 := by
  have each : ∀ length ∈ monthLengths year, length ≤ 31 := by
    unfold monthLengths
    cases isLeapYear year <;> decide
  rw [List.getD_eq_getElem?_getD]
  cases found : (monthLengths year)[passed]? with
  | none => exact Nat.zero_le _
  | some length => exact each length (List.mem_of_getElem? found)

/-! ## Counts of days -/

/-- The date of a count, with the months that have passed before it and the days of its month. -/
theorem exists_ofDays (days : Int) :
    ∃ passed rest, ofDays days = ⟨yearOf (days + epochDays), 1 + passed, rest + 1⟩ ∧ passed < 12 ∧
      rest < (monthLengths (yearOf (days + epochDays))).getD passed 0 ∧
      days + epochDays = daysBeforeYear (yearOf (days + epochDays)) +
        ((monthLengths (yearOf (days + epochDays))).take passed).sum + rest := by
  rw [ofDays]
  obtain ⟨begun, notOver⟩ := daysBeforeYear_yearOf (days + epochDays)
  generalize yearOf (days + epochDays) = year at begun notOver
  rw [daysBeforeYear_succ] at notOver
  have within : (days + epochDays - daysBeforeYear year).toNat < (monthLengths year).sum := by omega
  obtain ⟨passed, rest, found, isMonth, short, sum⟩ := inMonths_eq 1 within
  refine ⟨passed, rest, ?_, isMonth, short, by omega⟩
  simp only [found]

/-- The date that is found exists. -/
theorem isValid_ofDays (days : Int) : (ofDays days).isValid = true := by
  obtain ⟨passed, rest, found, isMonth, short, -⟩ := exists_ofDays days
  rw [found, isValid]
  simp only [Bool.and_eq_true, decide_eq_true_eq, Nat.add_sub_cancel_left]
  omega

/-- The days up to the date of a count are the count. -/
theorem toDays_ofDays (days : Int) : (ofDays days).toDays = days := by
  obtain ⟨passed, rest, found, -, -, sum⟩ := exists_ofDays days
  rw [found, toDays, daysBeforeMonth, ← List.sum_eq_foldl_nat]
  simp only [Nat.add_sub_cancel_left, Nat.add_sub_cancel]
  omega

/-- The months and days of the date that is found are numbers of two digits. -/
theorem month_day_ofDays_lt (days : Int) : (ofDays days).month < 100 ∧ (ofDays days).day < 100 := by
  obtain ⟨passed, rest, found, isMonth, short, -⟩ := exists_ofDays days
  have longest := getD_monthLengths_le (yearOf (days + epochDays)) passed
  rw [found]
  simp only
  omega

/-- The date of a count lies in no earlier a year than the one that has begun by then. -/
theorem le_year_ofDays_iff : year ≤ (ofDays days).year ↔ toDays ⟨year, 1, 1⟩ ≤ days := by
  have firstDay : toDays ⟨year, 1, 1⟩ = daysBeforeYear year - epochDays := by
    rw [toDays, daysBeforeMonth]
    simp only [Nat.sub_self, List.take_zero, List.foldl_nil]
    omega
  rw [firstDay]
  obtain ⟨reached, notOver⟩ := daysBeforeYear_yearOf (days + epochDays)
  show year ≤ yearOf (days + epochDays) ↔ _
  constructor
  · intro later
    have begins := daysBeforeYear_mono later
    omega
  · intro begun
    -- were the year later, the year of the day would be over before it begins
    refine Int.not_lt.mp fun earlier => ?_
    have begins := daysBeforeYear_mono (show yearOf (days + epochDays) + 1 ≤ year by omega)
    omega

/-- The date of a count lies between the years that begin no later and those that begin after it. -/
theorem year_ofDays (begun : toDays ⟨year, 1, 1⟩ ≤ days) (notBegun : days < toDays ⟨year', 1, 1⟩) :
    year ≤ (ofDays days).year ∧ (ofDays days).year < year' := by
  refine ⟨le_year_ofDays_iff.mpr begun, Int.not_le.mp fun later => ?_⟩
  exact Int.not_lt.mpr (le_year_ofDays_iff.mp later) notBegun

end Discovery.Date
