import Discovery.Calendar.Instant

/-!
# Instants in order

Moving forwards never leads to an earlier instant, leap seconds included. Outside leap seconds the dates of the
calendar are put in order by their counts of nanoseconds, and moving is addition on these counts.

* `later?_not_before`: no way forwards leads back;
* `isBefore_iff_count`, `exists_of_count`: dates by their counts;
* `later?_eq_some_iff`: which date is later by a number of nanoseconds;
* `later?_later?`, `exists_later?_of_le`: ways one after another, and dates on the way.
-/

namespace Discovery.Instant

variable {t u v : Instant} {span : Int}

/-! ## Before and after -/

theorem isBefore_iff :
    t.isBefore u = true ↔ t.seconds < u.seconds ∨ (t.seconds = u.seconds ∧ t.nanos < u.nanos) := by
  simp [isBefore]

theorem isBefore_of_not_before (notBefore : ¬ t.isBefore u = true) (before : t.isBefore v = true) :
    u.isBefore v = true := by
  rw [isBefore_iff] at *
  omega

theorem isBefore_of_before_not (before : t.isBefore u = true) (notBefore : ¬ v.isBefore u = true) :
    t.isBefore v = true := by
  rw [isBefore_iff] at *
  omega

/-- Counting forwards from within a second leads to that second or past it. -/
theorem ofCount?_not_before {seconds nanos : Int} (h : ofCount? seconds nanos = some u)
    (later : t.seconds < seconds + nanos / nanosPerSecond ∨
      (t.seconds = seconds + nanos / nanosPerSecond ∧ t.nanos ≤ nanos % nanosPerSecond)) :
    ¬ u.isBefore t = true := by
  simp only [ofCount?] at h
  split at h
  · cases h
    rw [isBefore_iff]
    simp only [nanosPerSecond] at *
    omega
  · cases h

/-- Moving forwards never leads to an earlier instant, leap seconds included. -/
theorem later?_not_before (forwards : 0 ≤ span) (h : t.later? span = some u) :
    ¬ u.isBefore t = true := by
  unfold later? at h
  rw [Int.tdiv_eq_ediv_of_nonneg forwards, Int.tmod_eq_emod_of_nonneg forwards] at h
  simp only [isLeap, decide_eq_true_eq] at h
  split at h
  · next leap =>
    split at h
    · -- the leap second is left
      refine ofCount?_not_before h (.inl ?_)
      simp only [nanosPerSecond] at *
      omega
    · split at h
      · next back =>
        simp only [nanosPerSecond] at *
        omega
      · -- the nanoseconds move within the leap second
        cases h
        rw [isBefore_iff]
        simp only [nanosPerSecond] at *
        omega
  · refine ofCount?_not_before h ?_
    simp only [nanosPerSecond] at *
    omega

/-! ## Dates and their counts -/

/-- A date of the calendar outside leap seconds. -/
structure IsPlain (t : Instant) : Prop where
  calendar : inCalendar t.seconds = true
  notLeap : t.isLeap = false

theorem inCalendar_iff {seconds : Int} :
    inCalendar seconds = true ↔ minSeconds ≤ seconds ∧ seconds ≤ maxSeconds := by
  rw [inCalendar, Bool.and_eq_true, decide_eq_true_eq, decide_eq_true_eq]

theorem isLeap_eq_false_iff : t.isLeap = false ↔ t.nanos < nanosPerSecond := by
  rw [isLeap, decide_eq_false_iff_not, Nat.not_le]

/-- Outside leap seconds the earlier date is the one with the smaller count. -/
theorem isBefore_iff_count (plain : t.isLeap = false) (plain' : u.isLeap = false) :
    t.isBefore u = true ↔ t.count < u.count := by
  rw [isLeap_eq_false_iff] at plain plain'
  rw [isBefore_iff, count, count]
  simp only [nanosPerSecond] at *
  omega

/-- Every count between those of two dates is the count of a date. -/
theorem exists_of_count {n : Int} (plain : t.IsPlain) (plain' : u.IsPlain) (above : t.count ≤ n)
    (below : n ≤ u.count) : ∃ date : Instant, date.IsPlain ∧ date.count = n := by
  have late := (inCalendar_iff.mp plain.calendar).1
  have early := (inCalendar_iff.mp plain'.calendar).2
  have short := isLeap_eq_false_iff.mp plain'.notLeap
  refine ⟨⟨n / nanosPerSecond, (n % nanosPerSecond).toNat⟩, ⟨inCalendar_iff.mpr ?_, ?_⟩, ?_⟩
  · simp only [count, nanosPerSecond] at *
    omega
  · rw [isLeap_eq_false_iff]
    simp only [nanosPerSecond]
    omega
  · simp only [count, nanosPerSecond]
    omega

/-- What a count leads to from the beginning of a second is the date with this count, if the calendar has it. -/
theorem ofCount?_eq_some_iff {seconds nanos : Int} :
    ofCount? seconds nanos = some u ↔ u.IsPlain ∧ u.count = seconds * nanosPerSecond + nanos := by
  constructor
  · intro counted
    rw [ofCount?] at counted
    split at counted
    · next calendar =>
      cases counted
      refine ⟨⟨calendar, ?_⟩, ?_⟩
      · rw [isLeap_eq_false_iff]
        simp only [nanosPerSecond]
        omega
      · simp only [count, nanosPerSecond]
        omega
    · cases counted
  · rintro ⟨plain, sum⟩
    -- an instant outside leap seconds is determined by its count
    have short := isLeap_eq_false_iff.mp plain.notLeap
    have whole : seconds + nanos / nanosPerSecond = u.seconds := by
      simp only [count, nanosPerSecond] at *
      omega
    have part : (nanos % nanosPerSecond).toNat = u.nanos := by
      simp only [count, nanosPerSecond] at *
      omega
    rw [ofCount?]
    simp only [whole, part, plain.calendar, if_true]

/-- Outside leap seconds, what is later by a number of nanoseconds is the date with a count larger by this
number, and there is nothing if the calendar has no such date. -/
theorem later?_eq_some_iff (plain : t.isLeap = false) :
    t.later? span = some u ↔ u.IsPlain ∧ u.count = t.count + span := by
  have counted : t.later? span = ofCount? t.seconds (t.nanos + span) := by
    rw [later?, plain]
    rfl
  rw [counted, ofCount?_eq_some_iff, count, count, Int.add_assoc]

/-! ## Ways of a second and more -/

/-- What is passed over in no time on a way of a second or more: the leap second in which it begins. -/
def passedOver (t : Instant) : Int :=
  if t.isLeap then nanosPerSecond else 0

/-- What is passed over is no more than what has gone by since the second began. -/
theorem passedOver_le (t : Instant) : t.passedOver ≤ t.nanos := by
  rw [passedOver]
  split
  · next leap =>
    rw [isLeap, decide_eq_true_eq] at leap
    exact Int.ofNat_le.mpr leap
  · exact Int.natCast_nonneg _

/-- A way of a second or more leads to the date with a count larger by its length, from a leap second as if that
had not been. -/
theorem later?_eq_some_iff_of_second_le (whole : nanosPerSecond ≤ span) :
    t.later? span = some u ↔ u.IsPlain ∧ u.count = t.count - t.passedOver + span := by
  cases leap : t.isLeap with
  | false => rw [later?_eq_some_iff leap, passedOver, leap, if_neg (by decide), Int.sub_zero]
  | true =>
    have forwards : (0 : Int) ≤ span := Int.le_trans (by decide) whole
    -- a second or more away the leap second is left, as if it were the second before it
    have left : 0 < span.tdiv nanosPerSecond := by
      rw [Int.tdiv_eq_ediv_of_nonneg forwards]
      simp only [nanosPerSecond] at *
      omega
    have counted : t.later? span = ofCount? t.seconds ((t.nanos - nanosPerSecond : Int) + span) := by
      simp only [later?, leap, if_true, if_pos (Or.inl left)]
    have sum : t.seconds * nanosPerSecond + (t.nanos - nanosPerSecond + span) =
        t.seconds * nanosPerSecond + t.nanos - nanosPerSecond + span := by omega
    rw [counted, ofCount?_eq_some_iff, passedOver, leap, if_pos rfl, count, count, sum]

/-- Two ways one after another, the first of a second or more, are one way. -/
theorem later?_later? {more : Int} (whole : nanosPerSecond ≤ span) (forwards : 0 ≤ more)
    (first : t.later? span = some u) : u.later? more = t.later? (span + more) := by
  have longer : nanosPerSecond ≤ span + more := Int.le_trans whole (Int.le_add_of_nonneg_right forwards)
  obtain ⟨plain, sum⟩ := (later?_eq_some_iff_of_second_le whole).mp first
  apply Option.ext
  intro v
  rw [later?_eq_some_iff plain.notLeap, later?_eq_some_iff_of_second_le longer, sum, Int.add_assoc]

/-- On the way to a date lie the dates of all shorter ways of a second or more. -/
theorem exists_later?_of_le {more : Int} (calendar : inCalendar t.seconds = true) (whole : nanosPerSecond ≤ span)
    (longer : span ≤ more) (last : t.later? more = some v) :
    ∃ u, t.later? span = some u ∧ ¬ v.isBefore u = true := by
  obtain ⟨plain, sum⟩ := (later?_eq_some_iff_of_second_le (Int.le_trans whole longer)).mp last
  -- the second in which `t` lies bounds the way from below, the end of the longer way from above
  have begun : IsPlain ⟨t.seconds, 0⟩ := ⟨calendar, rfl⟩
  have afterBeginning : count ⟨t.seconds, 0⟩ ≤ t.count - t.passedOver := by
    have skipped := t.passedOver_le
    have beginning : count ⟨t.seconds, 0⟩ = t.seconds * nanosPerSecond := Int.add_zero _
    rw [beginning, count]
    omega
  obtain ⟨u, plain', sum'⟩ : ∃ u : Instant, u.IsPlain ∧ u.count = t.count - t.passedOver + span := by
    apply exists_of_count begun plain
    · simp only [nanosPerSecond] at *
      omega
    · omega
  refine ⟨u, (later?_eq_some_iff_of_second_le whole).mpr ⟨plain', sum'⟩, ?_⟩
  rw [isBefore_iff_count plain.notLeap plain'.notLeap, sum, sum']
  omega

end Discovery.Instant
