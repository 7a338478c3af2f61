import Discovery.Lease.Basic

/-!
# The lease registry

The registry holds at most one lease for each component. A lease begins when it is added or renewed,
whatever start date it came with. After every change a snapshot of all leases in the order of their
components is published; readers of the snapshot never see the leases themselves.

The leases are kept in that order, so that a snapshot lists them as they stand and a renewal writes the new lease
over the old one. Nothing depends on it: a table without an order, whose leases are sorted for each snapshot, and a
renewal that takes the old lease out first, answer and publish the same (`LeaseRegistry.Unordered`).

Adding is for a component without a lease, renewing for one that has a lease. What is refused or has
nothing to remove changes nothing and publishes nothing.
-/

namespace Discovery

/-- Why a lease is not recorded. -/
inductive LeaseError where
  /-- The component has a lease. -/
  | alreadyHeld (index : ComponentIndex)
  /-- The component has no lease. -/
  | notFound (index : ComponentIndex)
deriving Repr, DecidableEq

def LeaseError.message : LeaseError → String
  | .alreadyHeld index => s!"component {index.toNat} already holds a lease"
  | .notFound index => s!"no lease found for component {index.toNat}"

/-- The leases and what was published of them. -/
structure LeaseRegistry where
  leases : SortedMap ComponentIndex Lease
  /-- The snapshot that was published last. -/
  snapshot : List Lease
  /-- How many snapshots have been published. -/
  publications : Nat
deriving Repr, DecidableEq

namespace LeaseRegistry

def new : LeaseRegistry := ⟨.empty, [], 0⟩

def get? (r : LeaseRegistry) (index : ComponentIndex) : Option Lease :=
  r.leases.get? index

def contains (r : LeaseRegistry) (index : ComponentIndex) : Bool :=
  r.leases.contains index

/-- The registry with other leases, a snapshot of which is published. -/
def publish (r : LeaseRegistry) (leases : SortedMap ComponentIndex Lease) : LeaseRegistry :=
  { leases := leases, snapshot := leases.values, publications := r.publications + 1 }

/-- Records a lease that begins now. -/
def store (r : LeaseRegistry) (now : Instant) (lease : Lease) : Lease × LeaseRegistry :=
  let started := { lease with start := some now }
  (started, r.publish (r.leases.insert lease.index started))

/-- Records a first lease of a component. -/
def add (r : LeaseRegistry) (now : Instant) (lease : Lease) :
    Except LeaseError (Lease × LeaseRegistry) :=
  if r.contains lease.index then .error (.alreadyHeld lease.index) else .ok (r.store now lease)

/-- Records a lease in place of the one that the component has. -/
def renew (r : LeaseRegistry) (now : Instant) (lease : Lease) :
    Except LeaseError (Lease × LeaseRegistry) :=
  if r.contains lease.index then .ok (r.store now lease) else .error (.notFound lease.index)

/-- Removes a component's lease if it satisfies a condition: what it was, and what is left. -/
def removeIf (r : LeaseRegistry) (index : ComponentIndex) (condition : Lease → Bool) :
    Option Lease × LeaseRegistry :=
  match r.get? index with
  | none => (none, r)
  | some lease =>
    if condition lease then (some lease, r.publish (r.leases.erase index)) else (none, r)

/-- Removes a component's lease: what it was, and what is left. -/
def remove (r : LeaseRegistry) (index : ComponentIndex) : Option Lease × LeaseRegistry :=
  r.removeIf index fun _ => true

end LeaseRegistry

end Discovery
