import Discovery.Lease.Basic

/-!
# Sweeping

A sweep takes the snapshot of the leases that was published last, keeps the components that the owner
of the registry still knows, and reports them to the owner in one message, unless there are none.
What becomes of them is for the owner to decide.

Sweeps are due at every full period of a timer from its start on.
-/

namespace Discovery

/-- A party that owns components and is told which of them to look after. -/
class RegistryOwner (σ : Type) where
  /-- Does the owner know the component? -/
  knows : σ → ComponentIndex → Bool
  /-- Tells the owner which components are due. -/
  notify : σ → List ComponentIndex → σ

namespace Sweeper

variable {σ : Type} [RegistryOwner σ]

/-- The components of a snapshot that the owner knows. -/
def live (snapshot : List Lease) (owner : σ) : List ComponentIndex :=
  (snapshot.map (·.index)).filter (RegistryOwner.knows owner)

/-- One sweep: what was reported, and the owner after it. -/
def sweep (snapshot : List Lease) (owner : σ) : List ComponentIndex × σ :=
  let reported := live snapshot owner
  (reported, if reported.isEmpty then owner else RegistryOwner.notify owner reported)

/-- A timer that has run for some time. Without a period nothing is ever due. -/
structure Timer where
  period : Duration
  elapsed : Duration
deriving Repr, DecidableEq

/-- How often a timer comes due while more time passes, and the timer after it. -/
def Timer.pass (timer : Timer) (time : Duration) : Nat × Timer :=
  let elapsed := timer.elapsed.nanos + time.nanos
  (elapsed / timer.period.nanos - timer.elapsed.nanos / timer.period.nanos,
    { timer with elapsed := ⟨elapsed⟩ })

/-- Sweeps a number of times, each time the snapshot that the owner's state then shows. -/
def sweepTimes (snapshotOf : σ → List Lease) : Nat → σ → σ
  | 0, owner => owner
  | n + 1, owner => sweepTimes snapshotOf n (sweep (snapshotOf owner) owner).2

end Sweeper

end Discovery
