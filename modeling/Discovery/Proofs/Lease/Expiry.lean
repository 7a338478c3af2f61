import Discovery.Lease.Basic
import Discovery.Proofs.Calendar.Order

/-!
# When leases expire

A lease ends no earlier than it starts, however few its slots are and even if it starts within a leap
second. Until its start has passed it is therefore not expired, nor until a date has passed that lies between
its start and its end.

* `not_isExpired`, `not_isExpired_by`: when a lease is not expired.
-/

namespace Discovery

namespace Lease

variable {lease : Lease} {slot : Duration} {start date now : Instant}

/-- A lease does not end before its start. -/
theorem end?_not_before (begun : lease.start = some start) (ends : lease.end? slot = some date) :
    ¬ date.isBefore start = true := by
  unfold end? at ends
  split at ends
  · rw [begun, Option.bind_some] at ends
    have forwards : (0 : Int) ≤ lease.slots.toNat * slot.nanos :=
      Int.mul_nonneg (Int.natCast_nonneg _) (Int.natCast_nonneg _)
    exact Instant.later?_not_before forwards ends
  · cases ends

/-- A lease is not expired at an instant that its start does not lie before. -/
theorem not_isExpired (begun : lease.start = some start) (notPassed : ¬ start.isBefore now = true) :
    lease.isExpired now slot = false := by
  unfold isExpired
  cases ends : lease.end? slot with
  | none => rfl
  | some date =>
    rw [Bool.eq_false_iff]
    intro ended
    exact notPassed (Instant.isBefore_of_not_before (end?_not_before begun ends) ended)

/-- A lease is not expired at an instant that a date on its way to its end does not lie before, if that date is a
second or more after its start. -/
theorem not_isExpired_by {span : Int} (begun : lease.start = some start)
    (calendar : Instant.inCalendar start.seconds = true) (whole : nanosPerSecond ≤ span)
    (within : span ≤ lease.slots.toNat * slot.nanos)
    (notPassed : ∀ due, start.later? span = some due → ¬ due.isBefore now = true) :
    lease.isExpired now slot = false := by
  unfold isExpired
  cases ends : lease.end? slot with
  | none => rfl
  | some date =>
    rw [Bool.eq_false_iff]
    intro ended
    unfold end? at ends
    split at ends
    · rw [begun, Option.bind_some] at ends
      -- the date on the way is in the calendar, because the end is
      obtain ⟨due, met, early⟩ := Instant.exists_later?_of_le calendar whole within ends
      exact notPassed due met (Instant.isBefore_of_not_before early ended)
    · cases ends

end Lease

end Discovery
