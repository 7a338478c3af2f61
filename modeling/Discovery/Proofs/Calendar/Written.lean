import Discovery.Calendar.Read
import Discovery.Calendar.Stamp
import Discovery.Proofs.Calendar.Date
import Discovery.Proofs.Calendar.Order
import Discovery.Proofs.Text.Numeral
import Mathlib.Data.List.TakeWhile

/-!
# Instants read back

What messages say of an instant is read as this instant, if its year has four digits without a sign and if it
lies in a whole second or in the leap second after the last one of a minute. Each part is written with as many
digits as its reader takes, and the fraction ends where the zone begins.

* `readNumber?_padded`, `readFraction?_fractionDigits`: the parts;
* `ofMessage?_digits`: what is read from the digits of date, time and fraction;
* `instant?_parts`: the parts of an instant are those of no other;
* `ofMessage?_toMessage`: both together.
-/

namespace Discovery.Instant

variable {width n nanos : Nat} {mark : Char} {rest : List Char}

/-! ## Numbers of a fixed width -/

/-- Leading zeros do not change a number. -/
theorem digitsValue_padded (width n : Nat) : Text.digitsValue (padded width n) = n := by
  rw [Text.digitsValue_eq, padded, Nat.ofDigitChars_append, Nat.ofDigitChars_replicate_zero, Nat.mul_zero]
  exact Nat.ofDigitChars_toDigits (by decide) (by decide)

/-- A number that fits into the width has this width. -/
theorem length_padded (some : 0 < width) (fits : n < 10 ^ width) : (padded width n).length = width := by
  have short : (Nat.toDigits 10 n).length ≤ width := (Nat.length_toDigits_le_iff (by decide) some).mpr fits
  rw [padded, List.length_append, List.length_replicate, Nat.sub_add_cancel short]

theorem isDigit_of_mem_padded {c : Char} (mem : c ∈ padded width n) : c.isDigit = true := by
  rcases List.mem_append.mp mem with zero | digit
  · cases List.eq_of_mem_replicate zero
    rfl
  · exact Nat.isDigit_of_mem_toDigits (by decide) (by decide) digit

/-- A number of fixed width is read whatever follows it. -/
theorem readNumber?_padded (some : 0 < width) (fits : n < 10 ^ width) (rest : List Char) :
    readNumber? width width (padded width n ++ rest) = .some (n, rest) := by
  have long := length_padded some fits
  have digits : ((padded width n ++ rest).take width).takeWhile Char.isDigit = padded width n := by
    rw [List.take_left' long]
    exact List.takeWhile_eq_self_iff.mpr fun _ => isDigit_of_mem_padded
  rw [readNumber?, digits]
  simp only [long, Nat.le_refl, if_true, digitsValue_padded, List.drop_left' long]

/-! ## Fractions -/

/-- The digits behind the point are read as nanoseconds. -/
theorem readFraction?_point (some : 0 < width) (atMost : width ≤ 9) (fits : n < 10 ^ width)
    (ended : mark.isDigit = false) :
    readFraction? ('.' :: padded width n ++ mark :: rest) = .some (n * 10 ^ (9 - width), mark :: rest) := by
  have long := length_padded some fits
  have isDigit : ∀ c ∈ padded width n, c.isDigit = true := fun _ => isDigit_of_mem_padded
  have digits : (padded width n ++ mark :: rest).takeWhile Char.isDigit = padded width n := by
    rw [List.takeWhile_append_of_pos isDigit, List.takeWhile_cons_of_neg (by simp [ended]), List.append_nil]
  have behind : (padded width n ++ mark :: rest).dropWhile Char.isDigit = mark :: rest := by
    rw [List.dropWhile_append_of_pos isDigit, List.dropWhile_cons_of_neg (by simp [ended])]
  have some : padded width n ≠ [] := List.ne_nil_of_length_pos (by rwa [long])
  have counted : (padded width n).take 9 = padded width n := List.take_of_length_le (by rwa [long])
  rw [List.cons_append, readFraction?]
  simp only [digits, behind, if_neg some, counted, digitsValue_padded, long]
  rfl

/-- A fraction is read as the nanoseconds that it was written for, however many digits they take. -/
theorem readFraction?_fractionDigits (short : nanos < nanosPerSecond) (ended : mark.isDigit = false)
    (noPoint : mark ≠ '.') :
    readFraction? (fractionDigits nanos ++ mark :: rest) = some (nanos, mark :: rest) := by
  simp only [nanosPerSecond] at short
  rw [fractionDigits]
  split
  · next zero =>
    -- nothing is written, and what follows is no point
    rw [List.nil_append, zero]
    unfold readFraction?
    split
    · next same => exact absurd (List.cons.inj same).1 noPoint
    · rfl
  · split
    · next millis =>
      rw [readFraction?_point (by decide) (by decide) (by omega) ended]
      exact congrArg (fun n => some (n, mark :: rest)) (by omega)
    · split
      · next micros =>
        rw [readFraction?_point (by decide) (by decide) (by omega) ended]
        exact congrArg (fun n => some (n, mark :: rest)) (by omega)
      · rw [readFraction?_point (by decide) (by decide) (by omega) ended, Nat.sub_self, Nat.pow_zero,
          Nat.mul_one]

/-! ## Date, time and zone -/

/-- The digits of date, time and fraction, with the zone behind them, are read as these numbers. -/
theorem ofMessage?_digits {year month day hour minute second : Nat} (fourDigits : year < 10000)
    (twoDigits : month < 100 ∧ day < 100 ∧ hour < 100 ∧ minute < 100 ∧ second < 100)
    (short : nanos < nanosPerSecond) :
    ofMessage? (String.ofList (padded 4 year ++ '-' :: padded 2 month ++ '-' :: padded 2 day
        ++ 'T' :: padded 2 hour ++ ':' :: padded 2 minute ++ ':' :: padded 2 second
        ++ fractionDigits nanos ++ ['+', '0', '0', ':', '0', '0'])) =
      Parts.instant? ⟨⟨year, month, day⟩, hour, minute, second, nanos, 0⟩ := by
  obtain ⟨month2, day2, hour2, minute2, second2⟩ := twoDigits
  have number : ∀ {n : Nat} (rest : List Char), n < 100 → readNumber? 2 2 (padded 2 n ++ rest) = some (n, rest) :=
    fun rest fits => readNumber?_padded (by decide) fits rest
  have fraction : readFraction? (fractionDigits nanos ++ ['+', '0', '0', ':', '0', '0']) =
      some (nanos, ['+', '0', '0', ':', '0', '0']) :=
    readFraction?_fractionDigits short (by decide) (by decide)
  have zone : readZone? (Text.readMark? ':') ['+', '0', '0', ':', '0', '0'] = some (0, []) := by decide
  simp only [ofMessage?, String.toList_ofList, List.append_assoc, List.cons_append, Option.bind_eq_bind,
    readNumber?_padded (show 0 < 4 by decide) fourDigits, Option.bind_some, Text.readMark?, readSeparator?, if_true,
    number _ month2, number _ day2, number _ hour2, number _ minute2, number _ second2, fraction, zone, true_or]

/-! ## Instants -/

/-- What messages can say of a time: a date of the years from 0 to 9999, which may be a leap second if it is the
last second of a minute. -/
structure IsSendable (t : Instant) : Prop where
  fromYearZero : Date.toDays ⟨0, 1, 1⟩ * secondsPerDay ≤ t.seconds
  beforeTenThousand : t.seconds < Date.toDays ⟨10000, 1, 1⟩ * secondsPerDay
  fraction : t.nanos < nanosPerSecond ∨ t.seconds % 60 = 59 ∧ t.nanos < 2 * nanosPerSecond

theorem IsSendable.inCalendar {t : Instant} (sendable : t.IsSendable) : inCalendar t.seconds = true := by
  have first : minSeconds ≤ Date.toDays ⟨0, 1, 1⟩ * secondsPerDay := by decide
  have last : Date.toDays ⟨10000, 1, 1⟩ * secondsPerDay ≤ maxSeconds := by decide
  have late := sendable.fromYearZero
  have early := sendable.beforeTenThousand
  exact inCalendar_iff.mpr ⟨by omega, by omega⟩

/-- The parts that are written for an instant are the parts of this instant. -/
theorem instant?_parts {t : Instant} (sendable : t.IsSendable) {ofDay : Nat}
    (counted : ofDay = (t.seconds % secondsPerDay).toNat) :
    Parts.instant? ⟨Date.ofDays (t.seconds / secondsPerDay), ofDay / 3600, ofDay / 60 % 60,
      ofDay % 60 + if t.isLeap then 1 else 0, t.nanos % nanosPerSecond, 0⟩ = some t := by
  rcases t with ⟨seconds, nanos⟩
  have calendar := sendable.inCalendar
  have fraction := sendable.fraction
  simp only [secondsPerDay] at counted
  have day : seconds / secondsPerDay * secondsPerDay + ofDay = seconds := by
    simp only [secondsPerDay]
    omega
  -- a leap second is written as the sixtieth, and read as the one before it with a second's worth of nanoseconds
  -- more
  obtain ⟨second, last, written⟩ : ∃ second, (ofDay % 60 + if isLeap ⟨seconds, nanos⟩ then 1 else 0) = second ∧
      min second 59 = ofDay % 60 ∧
      second ≤ 60 ∧ nanos % nanosPerSecond + (if second = 60 then nanosPerSecond else 0) = nanos := by
    refine ⟨_, rfl, ?_⟩
    simp only [isLeap, nanosPerSecond] at fraction ⊢
    by_cases leap : 1000000000 ≤ nanos
    · simp only [leap, decide_true, if_true]
      have lastOfMinute : ofDay % 60 = 59 := by omega
      simp only [lastOfMinute, Nat.reduceAdd, if_true]
      omega
    · have before : ofDay % 60 ≠ 60 := by omega
      simp only [leap, decide_false, Bool.false_eq_true, if_false, Nat.add_zero, before]
      omega
  have time : ofDay / 3600 * 3600 + ofDay / 60 % 60 * 60 + ofDay % 60 = ofDay := by omega
  have inDay : ofDay / 3600 < 24 ∧ ofDay / 60 % 60 < 60 := by omega
  have noOffset : Int.natAbs 0 < secondsPerDay := by decide
  simp only [Parts.instant?, Date.isValid_ofDays, Date.toDays_ofDays, last, inDay, written, noOffset, time, day,
    calendar, Int.sub_zero, decide_true, Bool.and_self, if_true]

/-- What messages say of an instant is read as the instant. -/
theorem ofMessage?_toMessage {t : Instant} (sendable : t.IsSendable) : ofMessage? t.toMessage = some t := by
  have begun : Date.toDays ⟨0, 1, 1⟩ ≤ t.seconds / secondsPerDay :=
    Int.le_ediv_of_mul_le (by decide) sendable.fromYearZero
  have notOver : t.seconds / secondsPerDay < Date.toDays ⟨10000, 1, 1⟩ :=
    Int.ediv_lt_of_lt_mul (by decide) sendable.beforeTenThousand
  -- the year has four digits, every other part has two
  obtain ⟨fromZero, toFourDigits⟩ := Date.year_ofDays begun notOver
  obtain ⟨month, day⟩ := Date.month_day_ofDays_lt (t.seconds / secondsPerDay)
  have inDay : (t.seconds % secondsPerDay).toNat < 86400 := by
    simp only [secondsPerDay]
    omega
  have fourDigits : 0 ≤ (Date.ofDays (t.seconds / secondsPerDay)).year ∧
      (Date.ofDays (t.seconds / secondsPerDay)).year ≤ 9999 := by omega
  have second : (t.seconds % secondsPerDay).toNat % 60 + (if t.isLeap then 1 else 0) < 100 := by
    split <;> omega
  simp only [toMessage, dateTimeDigits, yearDigits, if_pos fourDigits]
  rw [ofMessage?_digits (by omega) ⟨month, day, by omega, by omega, second⟩ (Nat.mod_lt _ (by decide)),
    Int.toNat_of_nonneg fromZero]
  exact instant?_parts sendable rfl

end Discovery.Instant
