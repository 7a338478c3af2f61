import Discovery.Calendar.Instant

/-!
# Lease settings

What the registry has to know of time: how long a slot is, which is also the time between two sweeps,
and how many slots a component is granted that does not ask for a number.
-/

namespace Discovery

/-- How leases are timed. -/
structure LeaseSettings where
  /-- The unit of leases and the period of sweeps. -/
  slot : Duration
  /-- The slots granted where no number is asked for. -/
  defaultSlots : UInt32
deriving Repr, DecidableEq

namespace LeaseSettings

/-- The length of a slot in seconds, unless another is set. -/
def standardSlotSeconds : Nat := 60

/-- The number of slots, unless another is set. -/
def standardSlots : UInt32 := 2

/-- The settings, unless others are made. -/
def standard : LeaseSettings := ⟨.ofSeconds standardSlotSeconds, standardSlots⟩

end LeaseSettings

end Discovery
