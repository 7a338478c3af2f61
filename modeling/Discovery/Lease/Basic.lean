import Discovery.Calendar.Instant
import Discovery.Component.Basic

/-!
# Leases

A lease says that a component is taken to be alive for a number of time slots from a start date on.
The date is set when the lease is recorded; a lease that has none yet does not end.

A lease does not end either where its end cannot be told: if the time slot is longer than `2^63 - 1`
milliseconds, if there are more than `2^31 - 1` slots, or if the end lies outside the calendar.
-/

namespace Discovery

/-- A grant of time to one component. -/
structure Lease where
  index : ComponentIndex
  start : Option Instant
  slots : UInt32
deriving Repr, DecidableEq

namespace Lease

/-- A lease whose time has not begun. -/
def unstarted (index : ComponentIndex) (slots : UInt32) : Lease :=
  ⟨index, none, slots⟩

/-- The longest time slot, in nanoseconds: `2^63 - 1` milliseconds. -/
def maxSlotNanos : Nat := 9223372036854775807 * 1000000

/-- The bound of the numbers of slots for which an end is told. -/
def slotBound : Nat := 2147483648

/-- The date on which the lease ends, if it has one. -/
def end? (lease : Lease) (slot : Duration) : Option Instant :=
  if slot.nanos ≤ maxSlotNanos ∧ lease.slots.toNat < slotBound then
    -- the calendar may end before the lease does
    lease.start.bind fun start => start.later? (lease.slots.toNat * slot.nanos)
  else none

/-- Did the lease end before the given date? -/
def isExpired (lease : Lease) (now : Instant) (slot : Duration) : Bool :=
  match lease.end? slot with
  | none => false
  | some date => date.isBefore now

end Lease

end Discovery
