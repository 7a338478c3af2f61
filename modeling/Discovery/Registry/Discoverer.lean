import Discovery.Message.Renewal
import Discovery.Message.Search
import Discovery.Registry.Directory
import Discovery.Registry.Leases
import Discovery.Registry.Settings
import Discovery.Registry.Sweeper

/-!
# The discoverer

The discoverer owns the directory of components and their leases, and reads a clock. A component that
registers enters both; a heartbeat renews its lease; a deregistration takes it out of both, and so
does a sweep that finds its lease expired by then, whatever an earlier snapshot said.

Every operation gives its answer and the state after it. One that is refused leaves the components
and leases as they were, as long as every lease belongs to a component.
-/

namespace Discovery

/-- Why the discoverer refuses a request. -/
inductive DiscoveryError where
  | directory (error : DirectoryError)
  | lease (error : LeaseError)
  /-- No component is registered under the index. -/
  | unknownComponent (index : ComponentIndex)
deriving Repr, DecidableEq

def DiscoveryError.message : DiscoveryError → String
  | .directory error => error.message
  | .lease error => error.message
  | .unknownComponent index => s!"unknown component {index.toNat}"

/-- What is listed of an active lease. -/
structure LeaseStatus where
  index : ComponentIndex
  id : String
  start : Option Instant
  ends : Option Instant
  slots : UInt32
deriving Repr, DecidableEq

/-- Components, their leases, and the time. -/
structure Discoverer where
  directory : Directory
  leases : LeaseRegistry
  /-- What the clock shows. -/
  now : Instant
  settings : LeaseSettings
deriving Repr, DecidableEq

namespace Discoverer

def new (settings : LeaseSettings) (now : Instant) : Discoverer :=
  ⟨.new, .new, now, settings⟩

/-! ## Requests -/

/-- Enters a component and grants it a lease. -/
def register (d : Discoverer) (r : Registration) : Except DiscoveryError Lease × Discoverer :=
  match d.directory.insert r with
  | .error error => (.error (.directory error), d)
  | .ok (index, directory) =>
    -- once the indexes have gone round, the new one may be in use
    match d.leases.add d.now (.unstarted index (r.slots.getD d.settings.defaultSlots)) with
    | .error error => (.error (.lease error), { d with directory := (directory.remove index).2 })
    | .ok (lease, leases) => (.ok lease, { d with directory := directory, leases := leases })

/-- The number of slots that a heartbeat asks for, or that the component has. -/
def renewedSlots (d : Discoverer) (h : Heartbeat) : Except LeaseError UInt32 :=
  match h.slots with
  | some slots => .ok slots
  | none =>
    match d.leases.get? h.index with
    | some lease => .ok lease.slots
    | none => .error (.notFound h.index)

/-- Renews the lease of a component. -/
def heartbeat (d : Discoverer) (h : Heartbeat) : Except DiscoveryError Lease × Discoverer :=
  match d.renewedSlots h with
  | .error error => (.error (.lease error), d)
  | .ok slots =>
    -- the slots were those of the old lease; that there is one is asked again
    match d.leases.renew d.now (.unstarted h.index slots) with
    | .error error => (.error (.lease error), d)
    | .ok (lease, leases) => (.ok lease, { d with leases := leases })

/-- Takes out a component and its lease. -/
def deregister (d : Discoverer) (index : ComponentIndex) :
    Except DiscoveryError Component × Discoverer :=
  -- the lease goes even if there is no component to go with it
  let (removed, directory) := d.directory.remove index
  let after := { d with directory := directory, leases := (d.leases.remove index).2 }
  match removed with
  | none => (.error (.unknownComponent index), after)
  | some component => (.ok component, after)

/-! ## Questions -/

def description? (d : Discoverer) (index : ComponentIndex) : Option Component :=
  d.directory.get? index

/-- The components that match a query, by index. -/
def query (d : Discoverer) (q : Query) : QueryReply :=
  ⟨(q.evaluateAll d.directory.dataModel).matching.filterMap fun index =>
    (d.directory.get? index).map fun component => ⟨index, component.id⟩⟩

/-- Does the component of an index match a query? -/
def matches? (d : Discoverer) (index : ComponentIndex) (q : Query) : Option Bool :=
  (d.directory.get? index).map q.evaluateOne

/-- What is listed of a lease. -/
def status (d : Discoverer) (lease : Lease) : LeaseStatus where
  index := lease.index
  id := ((d.directory.get? lease.index).map (·.id)).getD ""
  start := lease.start
  ends := lease.end? d.settings.slot
  slots := lease.slots

/-- The leases that were published last, by component. -/
def leaseStatuses (d : Discoverer) : List LeaseStatus :=
  d.leases.snapshot.map d.status

/-! ## Eviction -/

/-- Takes out a component if its lease is expired at the given time. -/
def evictIfExpired (now : Instant) (d : Discoverer) (index : ComponentIndex) : Discoverer :=
  match d.leases.removeIf index (·.isExpired now d.settings.slot) with
  | (none, _) => d
  | (some _, leases) => { d with directory := (d.directory.remove index).2, leases := leases }

/-- Takes out those of the reported components whose leases are expired now. -/
def notifyExpiring (d : Discoverer) (reported : List ComponentIndex) : Discoverer :=
  reported.foldl (evictIfExpired d.now) d

instance : RegistryOwner Discoverer where
  knows d index := d.directory.contains index
  notify := notifyExpiring

/-- One sweep: what was reported, and the state after it. -/
def sweep (d : Discoverer) : List ComponentIndex × Discoverer :=
  Sweeper.sweep d.leases.snapshot d

/-- What a sweeper does that runs for some time while the clock stands still. -/
def runSweeper (d : Discoverer) (time : Duration) : Discoverer :=
  Sweeper.sweepTimes (·.leases.snapshot) (Sweeper.Timer.pass ⟨d.settings.slot, ⟨0⟩⟩ time).1 d

/-! ## Time -/

def setClock (d : Discoverer) (now : Instant) : Discoverer :=
  { d with now := now }

/-- Moves the clock by a number of nanoseconds, within the calendar. -/
def advanceClock (d : Discoverer) (span : Int) : Discoverer :=
  { d with now := (d.now.later? span).getD d.now }

end Discoverer

end Discovery
