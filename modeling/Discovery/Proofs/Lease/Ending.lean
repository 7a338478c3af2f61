import Discovery.Proofs.Calendar.Order
import Discovery.Registry.Discoverer

/-!
# When leases end

A lease ends as many nanoseconds after its start as its slots have together, if that is a date of the calendar.
The dates are those outside leap seconds, so that sums are sums of counts of nanoseconds.

The end is not told of a lease of `2^31` slots or more, nor of one without slots whose slot is too long to be
counted in milliseconds. Such a lease never expires, although its end may be a date.

* `end?_eq_some_iff`: the end as a sum of counts;
* `ends_exactly_iff`: when the end is the date that it ought to be;
* `expires_no_later`: a lease that starts no later and is no longer does not outlast another.
-/

namespace Discovery.Lease

variable {lease a b : Lease} {slot slot' : Duration} {start start' date now now' : Instant}

/-! ## The end of a lease -/

/-- The end of a lease that begins outside leap seconds. -/
theorem end?_eq_some_iff (begun : lease.start = some start) (plain : start.isLeap = false) :
    lease.end? slot = some date ↔
      (slot.nanos ≤ maxSlotNanos ∧ lease.slots.toNat < slotBound) ∧
        date.IsPlain ∧ date.count = start.count + lease.slots.toNat * slot.nanos := by
  rw [end?, begun, Option.bind_some]
  split
  · next told =>
    rw [Instant.later?_eq_some_iff plain]
    exact ⟨fun ends => ⟨told, ends⟩, fun ends => ends.2⟩
  · next untold => exact iff_of_false nofun fun ends => untold ends.1

theorem isExpired_of_end? (ends : lease.end? slot = some date) :
    lease.isExpired now slot = date.isBefore now := by
  rw [isExpired, ends]

/-- A lease without an end never expires. -/
theorem isExpired_of_endless (endless : lease.end? slot = none) : lease.isExpired now slot = false := by
  rw [isExpired, endless]

/-- An expired lease has an end, and it has passed. -/
theorem exists_end_of_isExpired (expired : lease.isExpired now slot = true) :
    ∃ date, lease.end? slot = some date ∧ date.isBefore now = true := by
  cases ends : lease.end? slot with
  | none =>
    rw [isExpired_of_endless ends] at expired
    cases expired
  | some date =>
    rw [isExpired_of_end? ends] at expired
    exact ⟨date, rfl, expired⟩

/-- No slot that fits into the calendar is too long to be counted. -/
theorem slot_le_of_dates (plain : start.IsPlain) (plain' : date.IsPlain) {slots : Nat} (some : 0 < slots)
    (sum : date.count = start.count + slots * slot.nanos) : slot.nanos ≤ maxSlotNanos := by
  have late := (Instant.inCalendar_iff.mp plain.calendar).1
  have early := (Instant.inCalendar_iff.mp plain'.calendar).2
  have short := Instant.isLeap_eq_false_iff.mp plain'.notLeap
  have narrow : (Instant.maxSeconds + 1 - Instant.minSeconds) * nanosPerSecond ≤ maxSlotNanos := by decide
  have one : slot.nanos ≤ slots * slot.nanos := Nat.le_mul_of_pos_left _ some
  rw [← Int.natCast_mul] at sum
  generalize slots * slot.nanos = whole at one sum
  simp only [Instant.count, nanosPerSecond] at *
  omega

/-- Of this lease the end is told, if it is a date. -/
structure EndTold (lease : Lease) (slot : Duration) : Prop where
  slots : lease.slots.toNat < slotBound
  slot : lease.slots = 0 → slot.nanos ≤ maxSlotNanos

/-- Let a lease begin at a date outside leap seconds. If its start and its slots add up to a date of the calendar,
then it ends on this date, and is expired as soon as the date has passed, if and only if it has fewer than `2^31`
slots and, where it has none, a slot of at most `2^63 - 1` milliseconds. Otherwise it has no end and never expires.
An end that it has is always this sum. -/
theorem ends_exactly_iff (lease : Lease) (slot : Duration) (begun : lease.start = some start)
    (plain : start.IsPlain) :
    (∀ date : Instant, date.IsPlain → date.count = start.count + lease.slots.toNat * slot.nanos →
      ((lease.end? slot = some date ∧ ∀ now, lease.isExpired now slot = date.isBefore now) ↔
        lease.EndTold slot) ∧
      (¬ lease.EndTold slot → lease.end? slot = none ∧ ∀ now, lease.isExpired now slot = false)) ∧
    ∀ date, lease.end? slot = some date →
      date.IsPlain ∧ date.count = start.count + lease.slots.toNat * slot.nanos := by
  refine ⟨?_, fun date ends => ((end?_eq_some_iff begun plain.notLeap).mp ends).2⟩
  intro date plain' sum
  -- between two dates of the calendar a slot is never too long, unless there are no slots
  have told_iff : slot.nanos ≤ maxSlotNanos ∧ lease.slots.toNat < slotBound ↔ lease.EndTold slot := by
    constructor
    · intro told
      exact ⟨told.2, fun _ => told.1⟩
    · intro told
      refine ⟨?_, told.slots⟩
      by_cases none : lease.slots = 0
      · exact told.slot none
      · -- a slot at the least lies between the start and the end
        have some : 0 < lease.slots.toNat := UInt32.pos_iff_ne_zero.mpr none
        exact slot_le_of_dates plain plain' some sum
  constructor
  · constructor
    · rintro ⟨ends, -⟩
      exact told_iff.mp ((end?_eq_some_iff begun plain.notLeap).mp ends).1
    · intro told
      have ends := (end?_eq_some_iff begun plain.notLeap).mpr ⟨told_iff.mpr told, plain', sum⟩
      exact ⟨ends, fun now => isExpired_of_end? ends⟩
  · intro untold
    have endless : lease.end? slot = none := by
      rw [end?, if_neg (mt told_iff.mp untold)]
    exact ⟨endless, fun now => isExpired_of_endless endless⟩

/-- A lease that ends with the last nanosecond of the calendar, and has the most slots of which the end is told. -/
def longest : Lease := ⟨7, some ⟨Instant.maxSeconds - 2147483647, 999999999⟩, 2147483647⟩

theorem ends_exactly_with_calendar :
    longest.end? (.ofSeconds 1) = some ⟨Instant.maxSeconds, 999999999⟩ ∧
      longest.isExpired ⟨Instant.maxSeconds, 999999999⟩ (.ofSeconds 1) = false ∧
      longest.isExpired ⟨Instant.maxSeconds, 1000000000⟩ (.ofSeconds 1) = true := by
  have exactly := ends_exactly_iff longest (.ofSeconds 1) rfl ⟨by decide, by decide⟩
  obtain ⟨ends, expires⟩ := (exactly.1 ⟨Instant.maxSeconds, 999999999⟩ ⟨by decide, by decide⟩ (by decide)).1.mpr
    ⟨by decide, by decide⟩
  refine ⟨ends, ?_, ?_⟩
  · rw [expires]
    decide
  · rw [expires]
    decide

/-- A lease of so many slots that its end is not told. -/
def overlong : Lease := ⟨1, some ⟨0, 0⟩, 2147483648⟩

/-- A lease that ends where it starts. -/
def slotless : Lease := ⟨1, some ⟨0, 0⟩, 0⟩

/-- A component may ask for `2^31` slots of a second and is granted them. They end in the year 2038, but the lease
never does; nor does a lease without slots end on its start if a slot has `2^63` milliseconds. -/
theorem endless_although_due :
    ((Discoverer.new ⟨.ofSeconds 1, 2⟩ ⟨0, 0⟩).register
        ⟨"w1", "localhost", 1000, "", [], [], [], some 2147483648⟩).1 = .ok overlong ∧
      Instant.IsPlain ⟨2147483648, 0⟩ ∧
      Instant.count ⟨2147483648, 0⟩ = Instant.count ⟨0, 0⟩ + overlong.slots.toNat * (Duration.ofSeconds 1).nanos ∧
      overlong.end? (.ofSeconds 1) = none ∧ (∀ now, overlong.isExpired now (.ofSeconds 1) = false) ∧
      slotless.end? ⟨9223372036854775808 * 1000000⟩ = none ∧
      ∀ now, slotless.isExpired now ⟨9223372036854775808 * 1000000⟩ = false := by
  have manySlots : overlong.end? (.ofSeconds 1) = none := by decide
  have longSlot : slotless.end? ⟨9223372036854775808 * 1000000⟩ = none := by decide
  refine ⟨rfl, ⟨by decide, by decide⟩, by decide, manySlots, ?_, longSlot, ?_⟩
  · exact fun now => isExpired_of_endless manySlots
  · exact fun now => isExpired_of_endless longSlot

/-! ## Comparing ends -/

/-- If a lease is expired, so is every lease that starts no later, has no more slots and is measured in slots that
are no longer, then and at all later dates; also where the end of one of them lies beyond the calendar. -/
theorem expires_no_later (begun : a.start = some start) (begun' : b.start = some start')
    (plain : start.IsPlain) (plain' : start'.IsPlain) (startsNoLater : ¬ start'.isBefore start = true)
    (fewerSlots : a.slots ≤ b.slots) (shorterSlots : slot.nanos ≤ slot'.nanos)
    (askedLater : ¬ now'.isBefore now = true) (expired : b.isExpired now slot' = true) :
    a.isExpired now' slot = true := by
  obtain ⟨date', ends', passed'⟩ := exists_end_of_isExpired expired
  obtain ⟨⟨slotTold, slotsTold⟩, datePlain', sum'⟩ := (end?_eq_some_iff begun' plain'.notLeap).mp ends'
  have starts : start.count ≤ start'.count := by
    rw [Instant.isBefore_iff_count plain'.notLeap plain.notLeap] at startsNoLater
    omega
  have slots : a.slots.toNat ≤ b.slots.toNat := UInt32.le_iff_toNat_le.mp fewerSlots
  have spans : a.slots.toNat * slot.nanos ≤ b.slots.toNat * slot'.nanos := Nat.mul_le_mul slots shorterSlots
  -- the shorter lease ends between its start and the end of the other one, which the calendar has
  obtain ⟨date, datePlain, sum⟩ : ∃ date : Instant, date.IsPlain ∧
      date.count = start.count + (a.slots.toNat * slot.nanos : Nat) :=
    Instant.exists_of_count plain datePlain' (by omega) (by
      rw [← Int.natCast_mul] at sum'
      omega)
  have ends : a.end? slot = some date := by
    refine (end?_eq_some_iff begun plain.notLeap).mpr ⟨⟨by omega, by omega⟩, datePlain, ?_⟩
    rw [sum, Int.natCast_mul]
  have endsNoLater : ¬ date'.isBefore date = true := by
    rw [Instant.isBefore_iff_count datePlain'.notLeap datePlain.notLeap, sum, sum', ← Int.natCast_mul]
    omega
  rw [isExpired_of_end? ends]
  exact Instant.isBefore_of_before_not (Instant.isBefore_of_not_before endsNoLater passed') askedLater

/-- A lease that starts with the calendar, seen in the last leap second, beside one that ends with the calendar. -/
theorem expires_no_later_across_calendar :
    longest.isExpired ⟨Instant.maxSeconds, 1000000000⟩ (.ofSeconds 1) = true ∧
      isExpired ⟨1, some ⟨Instant.minSeconds, 0⟩, 2147483646⟩ ⟨Instant.maxSeconds, 1999999999⟩ ⟨999999999⟩ =
        true := by
  have expired : longest.isExpired ⟨Instant.maxSeconds, 1000000000⟩ (.ofSeconds 1) = true := by decide
  refine ⟨expired, ?_⟩
  exact expires_no_later rfl rfl ⟨by decide, by decide⟩ ⟨by decide, by decide⟩ (by decide) (by decide)
    (by decide) (by decide) expired

end Discovery.Lease
