import Discovery.Client.Exchange

/-!
# Keeping a component registered

A client that keeps its component registered renews the lease at half its length, over and over,
until a renewal fails. The length is counted in the seconds that the client takes a time slot to
have; a lease of no slots counts as one of a single slot, and the period is a second at least.

* `heartbeatPeriod_pos`: the period is never zero.
-/

namespace Discovery.Client

/-- The seconds from one heartbeat to the next, for a lease of so many slots. The length of the lease
is a number of sixty-four bits, beyond which it begins again from zero. -/
def heartbeatPeriod (slotSeconds : UInt64) (slots : UInt32) : UInt64 :=
  max (slotSeconds * (max slots 1).toUInt64) 2 / 2

/-- How the heartbeats of a client end. -/
inductive Ending where
  /-- Somebody stops the client. -/
  | stopped
  /-- A renewal fails. -/
  | failed (failure : Failure)
deriving Repr, DecidableEq

/-- A period passes, with a sweep at its end perhaps. -/
def passPeriod (period : UInt64) (sweeps : Bool) (d : Discoverer) : Discoverer :=
  let later := d.advanceClock (period.toNat * nanosPerSecond)
  if sweeps then later.sweep.2 else later

/-- Sends a heartbeat after each of a number of periods: how many were sent with success, how it
ended, and the discoverer after it. -/
def sendHeartbeats (url : String) (heartbeat : Heartbeat) (period : UInt64) (sweeps : Bool) :
    Nat → Discoverer → Nat × Ending × Discoverer
  | 0, d => (0, .stopped, d)
  | periods + 1, d =>
    match send url .heartbeat heartbeat (passPeriod period sweeps d) with
    -- the first failure ends them all
    | (.error failure, after) => (0, .failed failure, after)
    | (.ok _, after) =>
      let (sent, rest) := sendHeartbeats url heartbeat period sweeps periods after
      (sent + 1, rest)

/-- The larger of two numbers of sixty-four bits is at least the second. -/
theorem le_max_word (a b : UInt64) : b ≤ max a b := by
  show b ≤ if a ≤ b then b else a
  split
  · exact UInt64.le_refl b
  · next larger => exact UInt64.le_of_lt (UInt64.not_le.mp larger)

/-- The period is never zero. -/
theorem heartbeatPeriod_pos (slotSeconds : UInt64) (slots : UInt32) :
    0 < heartbeatPeriod slotSeconds slots := by
  have atLeastTwo := le_max_word (slotSeconds * (max slots 1).toUInt64) 2
  rw [UInt64.le_iff_toNat_le] at atLeastTwo
  rw [UInt64.lt_iff_toNat_lt, heartbeatPeriod, UInt64.toNat_div]
  exact Nat.div_pos atLeastTwo (by decide)

end Discovery.Client
