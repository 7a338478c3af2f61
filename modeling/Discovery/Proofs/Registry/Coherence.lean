import Discovery.Proofs.Registry.Consistency
import Discovery.Proofs.Registry.Leases
import Discovery.Registry.Discoverer

/-!
# Components and leases stay coherent

The discoverer keeps the components and their leases in two stores, and the leases a second time in
the snapshot that was published last. `Coherent` says that all of them are about the same components.

Registering extends both stores, `without` shrinks both, and a heartbeat replaces one lease; every
operation is some of these, one after another.

* `register_outcomes`, `heartbeat_cases`, `evictIfExpired_eq`: what each operation can do;
* `step_frame`: what operations do to the settings and to the clock;
* `Reached.coherent`: the invariant of all reached states;
* `Reached.one_population`: components, leases and snapshot are of one population.
-/

namespace Discovery

namespace Discoverer

variable {d : Discoverer} {index : ComponentIndex}

/-! ## Runs -/

/-- What changes a discoverer. -/
inductive Operation where
  | register (r : Registration)
  | heartbeat (h : Heartbeat)
  | deregister (index : ComponentIndex)
  /-- A report of components whose leases may be expired. -/
  | notify (reported : List ComponentIndex)
  | sweep
  /-- The clock is set, forwards or backwards. -/
  | setClock (now : Instant)
deriving Repr, DecidableEq

def step (d : Discoverer) : Operation → Discoverer
  | .register r => (d.register r).2
  | .heartbeat h => (d.heartbeat h).2
  | .deregister index => (d.deregister index).2
  | .notify reported => d.notifyExpiring reported
  | .sweep => d.sweep.2
  | .setClock now => d.setClock now

def admits (d : Discoverer) : Operation → Bool
  | .register r => (d.register r).1.isOk
  | _ => false

def machine : Machine Discoverer Operation := ⟨step, admits⟩

/-- The discoverers that operations lead to, whatever the settings and the first time shown. -/
def Reached (d : Discoverer) : Prop :=
  machine.Reached (fun d => ∃ settings now, d = .new settings now) d

/-! ## The invariant -/

/-- Directory and leases are in order by themselves and are of the same components. -/
structure Coherent (d : Discoverer) : Prop where
  directory : d.directory.Consistent
  leases : d.leases.Orderly
  same : ∀ {i}, d.leases.contains i = true ↔ d.directory.contains i = true

theorem coherent_new (settings : LeaseSettings) (now : Instant) : (new settings now).Coherent where
  directory := Directory.consistent_new
  leases := LeaseRegistry.orderly_new
  same := Iff.rfl

/-! ## Registering -/

/-- A registration is refused for its id; it is given an index that has a lease, and taken back; or it is entered
under its index and granted a lease that begins now. -/
theorem register_outcomes (d : Discoverer) (r : Registration) :
    (d.directory.ids.contains r.id = true ∧
        d.register r = (.error (.directory (.duplicateId r.id)), d)) ∨
      ∃ directory, d.directory.insert r = .ok (d.directory.nextIndex, directory) ∧
        ((d.leases.contains d.directory.nextIndex = true ∧
            d.register r = (.error (.lease (.alreadyHeld d.directory.nextIndex)),
              { d with directory := (directory.remove d.directory.nextIndex).2 })) ∨
          ∃ lease, lease = .unstarted d.directory.nextIndex (r.slots.getD d.settings.defaultSlots) ∧
            d.register r = (.ok (d.leases.store d.now lease).1,
              { d with directory := directory, leases := (d.leases.store d.now lease).2 })) := by
  unfold register
  cases done : d.directory.insert r with
  | error error =>
    rcases Directory.insert_error done with ⟨taken, rfl⟩
    exact .inl ⟨taken, rfl⟩
  | ok answer =>
    rcases answer with ⟨index, directory⟩
    rcases Directory.insert_ok done with ⟨-, rfl, -⟩
    refine .inr ⟨directory, rfl, ?_⟩
    -- a lease that is held under the new index undoes the insertion
    by_cases held : d.leases.contains d.directory.nextIndex = true
    · refine .inl ⟨held, ?_⟩
      simp [LeaseRegistry.add, Lease.unstarted, held]
    · refine .inr ⟨_, rfl, ?_⟩
      simp [LeaseRegistry.add, Lease.unstarted, held]

/-- While the next index is free, a registration is refused for its id only, and otherwise enters the
component and grants it a lease that begins now. -/
theorem register_cases (coherent : d.Coherent)
    (free : d.directory.components.get? d.directory.nextIndex = none) (r : Registration) :
    (d.directory.ids.contains r.id = true ∧
        d.register r = (.error (.directory (.duplicateId r.id)), d)) ∨
      ∃ directory lease, d.directory.insert r = .ok (d.directory.nextIndex, directory) ∧
        lease = .unstarted d.directory.nextIndex (r.slots.getD d.settings.defaultSlots) ∧
        d.register r = (.ok (d.leases.store d.now lease).1,
          { d with directory := directory, leases := (d.leases.store d.now lease).2 }) := by
  rcases register_outcomes d r with refused | ⟨directory, done, ⟨held, -⟩ | ⟨lease, unstarted, granted⟩⟩
  · exact .inl refused
  · -- leases are held by components only, and the next index has none
    rw [coherent.same] at held
    exact absurd held (SortedMap.not_contains_iff.mpr free)
  · exact .inr ⟨directory, lease, done, unstarted, granted⟩

theorem Coherent.register (coherent : d.Coherent)
    (free : d.directory.components.get? d.directory.nextIndex = none) (r : Registration) :
    (d.register r).2.Coherent := by
  rcases register_cases coherent free r with
    ⟨-, refused⟩ | ⟨directory, lease, done, rfl, granted⟩
  · rw [refused]
    exact coherent
  · rw [granted]
    refine ⟨coherent.directory.insert free done, coherent.leases.store, ?_⟩
    intro i
    rw [LeaseRegistry.contains_store, Directory.contains_of_insert done, coherent.same]
    rfl

/-! ## Renewing -/

/-- A heartbeat is refused if there is no lease, and otherwise begins it anew, with the slots that it
had unless others are asked for. -/
theorem heartbeat_cases (d : Discoverer) (h : Heartbeat) :
    (d.leases.get? h.index = none ∧ d.heartbeat h = (.error (.lease (.notFound h.index)), d)) ∨
      ∃ old lease, d.leases.get? h.index = some old ∧
        lease = .unstarted h.index (h.slots.getD old.slots) ∧
        d.heartbeat h = (.ok (d.leases.store d.now lease).1,
          { d with leases := (d.leases.store d.now lease).2 }) := by
  unfold heartbeat renewedSlots
  cases held : d.leases.get? h.index with
  | none =>
    have notHeld : ¬ d.leases.contains h.index = true := SortedMap.not_contains_iff.mpr held
    refine .inl ⟨rfl, ?_⟩
    cases h.slots with
    | none => rfl
    | some slots => simp [LeaseRegistry.renew, Lease.unstarted, notHeld]
  | some old =>
    have isHeld : d.leases.contains h.index = true := SortedMap.contains_iff.mpr ⟨old, held⟩
    refine .inr ⟨old, _, rfl, rfl, ?_⟩
    cases h.slots <;> simp [LeaseRegistry.renew, Lease.unstarted, isHeld]

theorem Coherent.heartbeat (coherent : d.Coherent) (h : Heartbeat) :
    (d.heartbeat h).2.Coherent := by
  rcases heartbeat_cases d h with ⟨-, refused⟩ | ⟨old, lease, held, rfl, granted⟩
  · rw [refused]
    exact coherent
  · rw [granted]
    refine ⟨coherent.directory, coherent.leases.store, ?_⟩
    intro i
    rw [LeaseRegistry.contains_store, coherent.same]
    constructor
    · rintro (rfl | known)
      · exact coherent.same.mp (SortedMap.contains_iff.mpr ⟨old, held⟩)
      · exact known
    · exact Or.inr

/-! ## Removing -/

def without (d : Discoverer) (index : ComponentIndex) : Discoverer :=
  { d with directory := (d.directory.remove index).2, leases := (d.leases.remove index).2 }

theorem Coherent.without (coherent : d.Coherent) : (d.without index).Coherent where
  directory := coherent.directory.remove
  leases := coherent.leases.removeIf
  same := by
    intro i
    unfold Discoverer.without
    rw [LeaseRegistry.contains_remove, Directory.contains_remove, coherent.same]

/-- Deregistering removes the component and its lease, whatever it answers. -/
theorem deregister_state (d : Discoverer) (index : ComponentIndex) :
    (d.deregister index).2 = d.without index := by
  unfold deregister without
  split
  next removed directory split =>
    rw [split]
    cases removed <;> rfl

/-- Is the lease of the component, if it has one, expired at the given time? -/
def expired (d : Discoverer) (now : Instant) (index : ComponentIndex) : Bool :=
  (d.leases.get? index).any (·.isExpired now d.settings.slot)

/-- Evicting removes the component and its lease if the lease is expired. -/
theorem evictIfExpired_eq (now : Instant) (d : Discoverer) (index : ComponentIndex) :
    d.evictIfExpired now index = if d.expired now index then d.without index else d := by
  unfold evictIfExpired expired without LeaseRegistry.remove LeaseRegistry.removeIf
  cases d.leases.get? index with
  | none => rfl
  | some lease =>
    simp only [Option.any_some, if_true]
    by_cases ended : lease.isExpired now d.settings.slot = true
    · rw [if_pos ended, if_pos ended]
    · rw [if_neg ended, if_neg ended]

/-- Sweeping reports the components of the snapshot that are known, and evicts those of them whose
leases are expired. -/
theorem sweep_eq (d : Discoverer) :
    d.sweep = (Sweeper.live d.leases.snapshot d,
      d.notifyExpiring (Sweeper.live d.leases.snapshot d)) := by
  have after : (if (Sweeper.live d.leases.snapshot d).isEmpty then d
      else d.notifyExpiring (Sweeper.live d.leases.snapshot d)) =
      d.notifyExpiring (Sweeper.live d.leases.snapshot d) := by
    split
    · next nobody =>
      rw [List.isEmpty_iff.mp nobody]
      rfl
    · rfl
  exact congrArg (Prod.mk _) after

/-! ## Evicting a list of components -/

/-- The evictions of a notification that read the clock at the given time; the clock may have moved
since. -/
def evictAll (d : Discoverer) (now : Instant) (reported : List ComponentIndex) : Discoverer :=
  reported.foldl (evictIfExpired now) d

/-- What no single removal destroys outlives a notification. -/
theorem evictAll_induction {P : Discoverer → Prop} {now : Instant}
    (hstep : ∀ d index, P d → P (d.without index)) (reported : List ComponentIndex) (hd : P d) :
    P (d.evictAll now reported) := by
  induction reported generalizing d with
  | nil => exact hd
  | cons index reported ih =>
    refine ih ?_
    rw [evictIfExpired_eq]
    split
    · exact hstep d index hd
    · exact hd

/-! ## Settings and clock -/

def clockAfter (d : Discoverer) : Operation → Instant
  | .setClock now => now
  | _ => d.now

/-- No operation changes the settings, and the clock is moved by the operation that sets it alone. -/
theorem step_frame (d : Discoverer) (op : Operation) :
    (d.step op).settings = d.settings ∧ (d.step op).now = d.clockAfter op := by
  -- evictions take components out, and touch nothing else
  have evicted : ∀ reported, (d.evictAll d.now reported).settings = d.settings ∧
      (d.evictAll d.now reported).now = d.now := by
    intro reported
    exact evictAll_induction (P := fun s => s.settings = d.settings ∧ s.now = d.now) (fun _ _ same => same)
      reported ⟨rfl, rfl⟩
  cases op with
  | register r =>
    rw [step]
    rcases register_outcomes d r with ⟨-, refused⟩ | ⟨_, -, ⟨-, undone⟩ | ⟨_, -, granted⟩⟩
    · rw [refused]
      exact ⟨rfl, rfl⟩
    · rw [undone]
      exact ⟨rfl, rfl⟩
    · rw [granted]
      exact ⟨rfl, rfl⟩
  | heartbeat h =>
    rw [step]
    rcases heartbeat_cases d h with ⟨-, refused⟩ | ⟨old, lease, -, -, granted⟩
    · rw [refused]
      exact ⟨rfl, rfl⟩
    · rw [granted]
      exact ⟨rfl, rfl⟩
  | deregister i =>
    rw [step, deregister_state]
    exact ⟨rfl, rfl⟩
  | notify reported => exact evicted reported
  | sweep =>
    rw [step, sweep_eq]
    exact evicted _
  | setClock now => exact ⟨rfl, rfl⟩

/-! ## Reached discoverers -/

theorem step_coherent {n : Nat} {op : Operation} (few : n + (d.admits op).toNat < indexLimit)
    (inv : d.Coherent ∧ d.directory.Counted n) :
    (d.step op).Coherent ∧ (d.step op).directory.Counted (n + (d.admits op).toNat) := by
  rcases inv with ⟨coherent, counted⟩
  -- whatever is evicted, and by whatever clock
  have evicted : ∀ now reported, (d.evictAll now reported).Coherent ∧
      (d.evictAll now reported).directory.Counted n := by
    intro now reported
    refine evictAll_induction (P := fun d => d.Coherent ∧ d.directory.Counted n) ?_ reported
      ⟨coherent, counted⟩
    rintro d index ⟨coherent, counted⟩
    exact ⟨coherent.without, counted.remove⟩
  cases op with
  | register r =>
    refine ⟨coherent.register counted.next_free r, ?_⟩
    simp only [step, admits] at few ⊢
    rcases register_cases coherent counted.next_free r with
      ⟨-, refused⟩ | ⟨directory, lease, done, -, granted⟩
    · rw [refused]
      exact counted
    · rw [granted] at few ⊢
      exact counted.insert few done
  | heartbeat h =>
    refine ⟨coherent.heartbeat h, ?_⟩
    simp only [step, admits]
    rcases heartbeat_cases d h with ⟨-, refused⟩ | ⟨old, lease, -, -, granted⟩
    · rw [refused]
      exact counted
    · rw [granted]
      exact counted
  | deregister index =>
    simp only [step, admits]
    rw [deregister_state]
    exact ⟨coherent.without, counted.remove⟩
  | notify reported => exact evicted d.now reported
  | sweep =>
    simp only [step, admits]
    rw [sweep_eq]
    exact evicted d.now _
  | setClock now => exact ⟨⟨coherent.directory, coherent.leases, coherent.same⟩, counted⟩

/-- In every reached state directory and leases are coherent, and the next index is free. -/
theorem Reached.coherent (reached : d.Reached) :
    d.Coherent ∧ ∃ n, n < indexLimit ∧ d.directory.Counted n := by
  have hinit : ∀ s : Discoverer, (∃ settings now, s = .new settings now) →
      s.Coherent ∧ s.directory.Counted 0 := by
    rintro s ⟨settings, now, rfl⟩
    exact ⟨coherent_new settings now, Directory.counted_new⟩
  rcases Machine.Reached.invariant hinit (fun _ _ _ => step_coherent) reached with
    ⟨n, few, coherent, counted⟩
  exact ⟨coherent, n, few, counted⟩

theorem Reached.next_free (reached : d.Reached) :
    d.directory.components.get? d.directory.nextIndex = none := by
  rcases reached.coherent with ⟨-, n, -, counted⟩
  exact counted.next_free

/-! ## One population -/

theorem Coherent.keys_eq (coherent : d.Coherent) :
    d.directory.components.keys = d.leases.leases.keys := by
  refine SortedMap.eq_of_ascending (SortedMap.keys_ascending _) (SortedMap.keys_ascending _) ?_
  intro i
  rw [SortedMap.mem_keys_iff, SortedMap.mem_keys_iff]
  exact coherent.same.symm

/-- What is listed of a component are the statuses of the leases. -/
theorem Coherent.listed_iff (coherent : d.Coherent) {i : ComponentIndex} :
    (∃ status ∈ d.leaseStatuses, status.index = i) ↔ d.leases.contains i = true := by
  have indexes : d.leaseStatuses.map (·.index) = d.leases.leases.keys := by
    rw [← coherent.leases.snapshot_indexes, leaseStatuses, List.map_map]
    rfl
  calc (∃ status ∈ d.leaseStatuses, status.index = i)
      ↔ i ∈ d.leaseStatuses.map (·.index) := List.mem_map.symm
    _ ↔ d.leases.contains i = true := by
        rw [indexes]
        exact SortedMap.mem_keys_iff

/-- A status names the component that has the index. -/
theorem Coherent.status_id (coherent : d.Coherent) {status : LeaseStatus}
    (mem : status ∈ d.leaseStatuses) :
    ∃ component, d.directory.get? status.index = some component ∧ status.id = component.id := by
  have held : d.leases.contains status.index = true := coherent.listed_iff.mp ⟨status, mem, rfl⟩
  rcases SortedMap.contains_iff.mp (coherent.same.mp held) with ⟨component, known⟩
  refine ⟨component, known, ?_⟩
  rcases List.mem_map.mp mem with ⟨lease, -, rfl⟩
  show ((d.directory.get? lease.index).map (·.id)).getD "" = component.id
  have knownHere : d.directory.get? lease.index = some component := known
  rw [knownHere]
  rfl

/-- In every reached state the components, the leases and the published snapshot are of one
population: the directory, the lease map and the snapshot have the same indexes; leases are kept under
their own components and have begun; the snapshot is the leases as they are, in ascending order; what
is listed names the components. So no registration ever finds a lease in its place. -/
theorem Reached.one_population (reached : d.Reached) :
    d.directory.components.keys = d.leases.leases.keys ∧
      d.leases.snapshot.map (·.index) = d.leases.leases.keys ∧
      (∀ i lease, d.leases.get? i = some lease →
        lease.index = i ∧ ∃ start, lease.start = some start) ∧
      d.leases.snapshot = d.leases.leases.values ∧
      (d.leases.snapshot.map (·.index)).Pairwise (· < ·) ∧
      (∀ i, (RegistryOwner.knows d i = true ↔ d.leases.contains i = true) ∧
        (d.leases.contains i = true ↔ ∃ status ∈ d.leaseStatuses, status.index = i)) ∧
      (∀ status ∈ d.leaseStatuses, ∃ component,
        d.directory.get? status.index = some component ∧ status.id = component.id) ∧
      ∀ r error, (d.register r).1 ≠ .error (.lease error) := by
  have coherent := reached.coherent.1
  refine ⟨coherent.keys_eq, coherent.leases.snapshot_indexes, ?_, coherent.leases.published, ?_, ?_,
    ?_, ?_⟩
  · intro i lease held
    exact ⟨coherent.leases.own_index held, coherent.leases.started held⟩
  · rw [coherent.leases.snapshot_indexes]
    exact SortedMap.keys_ascending _
  · intro i
    exact ⟨coherent.same.symm, coherent.listed_iff.symm⟩
  · intro status mem
    exact coherent.status_id mem
  · intro r error answer
    rcases register_cases coherent reached.next_free r with
      ⟨-, refused⟩ | ⟨directory, lease, -, -, granted⟩
    · rw [refused] at answer
      cases answer
    · rw [granted] at answer
      cases answer

/-- Two components stay, of which one has renewed its lease and the other's lease is expired by the
end; a registration of an id that is taken is refused, and a third component comes and goes. -/
def morning : List Operation :=
  [.register ⟨"w1", "localhost", 2000, "", ["temperature"], [], [], none⟩,
    .register ⟨"w2", "localhost", 1000, "sensor", ["temperature", "temperature"], [], [], none⟩,
    .register ⟨"w1", "elsewhere", 2000, "", [], [], [], none⟩,
    .register ⟨"w3", "localhost", 3000, "", ["humidity"], [], [], some 9⟩,
    .deregister 3, .setClock ⟨60, 0⟩, .heartbeat ⟨1, none⟩, .setClock ⟨150, 0⟩]

def afterMorning : Discoverer :=
  machine.run (new .standard ⟨0, 0⟩) morning

theorem afterMorning_reached : afterMorning.Reached :=
  machine.reached_of_short ⟨.standard, ⟨0, 0⟩, rfl⟩ (by decide)

theorem one_population_after_morning :
    afterMorning.Reached ∧ afterMorning.directory.components.keys = [1, 2] ∧
      afterMorning.leases.leases.keys = [1, 2] ∧
      afterMorning.leases.snapshot.map (·.index) = [1, 2] := by
  have leased : afterMorning.leases.leases.keys = [1, 2] := by decide +kernel
  rcases Reached.one_population afterMorning_reached with ⟨components, snapshot, -⟩
  rw [leased] at components snapshot
  exact ⟨afterMorning_reached, components, leased, snapshot⟩

end Discoverer

end Discovery
