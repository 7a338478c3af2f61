import Discovery.Proofs.Registry.Coherence

/-!
# Components that are left alone

An operation spares a component if it does not address it: it is no heartbeat and no deregistration of the
component, and no registration that is given its index. Reports, sweeps and the clock may be about any component,
but they take none whose lease is not expired. So a component that is spared stays as it is, with its lease, until
that is expired. Nothing is supposed of the state for this; in particular the indexes may have gone round.

* `holds_of_register`, `Holds.step`: a component that is spared keeps the lease that it was granted.
-/

namespace Discovery.Discoverer

variable {d after : Discoverer} {index : ComponentIndex} {op : Operation} {component : Component} {lease : Lease}
  {now : Instant} {r : Registration}

/-! ## Sparing a component -/

/-- The operation does not address the index. -/
def Spares (index : ComponentIndex) (d : Discoverer) : Operation → Prop
  | .register _ => d.directory.nextIndex ≠ index
  | .heartbeat h => h.index ≠ index
  | .deregister i => i ≠ index
  | _ => True

instance (index : ComponentIndex) (d : Discoverer) (op : Operation) : Decidable (d.Spares index op) :=
  match op with
  | .register _ => inferInstanceAs (Decidable (d.directory.nextIndex ≠ index))
  | .heartbeat h => inferInstanceAs (Decidable (h.index ≠ index))
  | .deregister i => inferInstanceAs (Decidable (i ≠ index))
  | .notify _ | .sweep | .setClock _ => .isTrue trivial

/-- The component is registered under the index of the lease and has the lease. -/
structure Holds (d : Discoverer) (component : Component) (lease : Lease) : Prop where
  component : d.directory.get? lease.index = some component
  lease : d.leases.get? lease.index = some lease

/-- A registration that succeeds enters a component that has the lease. -/
theorem holds_of_register (granted : d.register r = (.ok lease, after)) :
    after.Holds (r.component lease.index) lease ∧ lease.start = some d.now := by
  rcases register_outcomes d r with ⟨-, refused⟩ | ⟨directory, done, ⟨-, undone⟩ | ⟨_, rfl, entered⟩⟩
  · rw [refused] at granted
    cases granted
  · rw [undone] at granted
    cases granted
  · rw [entered] at granted
    cases granted
    rcases Directory.insert_ok done with ⟨-, -, rfl⟩
    refine ⟨⟨?_, ?_⟩, rfl⟩
    · exact (SortedMap.get?_insert ..).trans (if_pos rfl)
    · exact (LeaseRegistry.get?_store _).trans (if_pos rfl)

theorem Holds.register (holds : d.Holds component lease) (other : d.directory.nextIndex ≠ lease.index) :
    (d.register r).2.Holds component lease := by
  have inserted : ∀ directory, d.directory.insert r = .ok (d.directory.nextIndex, directory) →
      directory.get? lease.index = some component := by
    intro directory done
    rcases Directory.insert_ok done with ⟨-, -, rfl⟩
    exact (SortedMap.get?_insert ..).trans ((if_neg other).trans holds.component)
  rcases register_outcomes d r with ⟨-, refused⟩ | ⟨directory, done, ⟨-, undone⟩ | ⟨_, rfl, entered⟩⟩
  · rw [refused]
    exact holds
  · -- the component that is taken back is the one that was entered
    rw [undone]
    exact ⟨(Directory.get?_remove _).trans ((if_neg other).trans (inserted directory done)), holds.lease⟩
  · rw [entered]
    exact ⟨inserted directory done, (LeaseRegistry.get?_store _).trans ((if_neg other).trans holds.lease)⟩

theorem Holds.heartbeat {h : Heartbeat} (holds : d.Holds component lease) (other : h.index ≠ lease.index) :
    (d.heartbeat h).2.Holds component lease := by
  rcases heartbeat_cases d h with ⟨-, refused⟩ | ⟨old, _, -, rfl, granted⟩
  · rw [refused]
    exact holds
  · rw [granted]
    exact ⟨holds.component, (LeaseRegistry.get?_store _).trans ((if_neg other).trans holds.lease)⟩

theorem Holds.without (holds : d.Holds component lease) (other : index ≠ lease.index) :
    (d.without index).Holds component lease where
  component := (Directory.get?_remove _).trans ((if_neg other).trans holds.component)
  lease := (LeaseRegistry.get?_remove _).trans ((if_neg other).trans holds.lease)

/-- Evictions leave a component whose lease is not expired. -/
theorem Holds.evictAll (holds : d.Holds component lease) (current : lease.isExpired now d.settings.slot = false)
    (reported : List ComponentIndex) : (d.evictAll now reported).Holds component lease := by
  -- an eviction that takes a component out found its lease expired, so it was another one's
  have each : ∀ s : Discoverer, s.settings = d.settings → s.Holds component lease → ∀ index,
      (s.evictIfExpired now index).settings = d.settings ∧
        (s.evictIfExpired now index).Holds component lease := by
    intro s same held index
    rw [evictIfExpired_eq]
    split
    · next expired =>
      refine ⟨same, held.without ?_⟩
      rintro rfl
      rw [Discoverer.expired, held.lease, Option.any_some, same, current] at expired
      cases expired
    · exact ⟨same, held⟩
  have all : ∀ s : Discoverer, s.settings = d.settings → s.Holds component lease →
      (s.evictAll now reported).Holds component lease := by
    induction reported with
    | nil => exact fun _ _ held => held
    | cons index rest ih =>
      intro s same held
      obtain ⟨sameAfter, heldAfter⟩ := each s same held index
      exact ih _ sameAfter heldAfter
  exact all d rfl holds

/-- An operation that spares a component whose lease is not expired leaves it with its lease. -/
theorem Holds.step (holds : d.Holds component lease) (spares : d.Spares lease.index op)
    (current : lease.isExpired d.now d.settings.slot = false) : (d.step op).Holds component lease := by
  cases op with
  | register r => exact holds.register spares
  | heartbeat h => exact holds.heartbeat spares
  | deregister i =>
    rw [step, deregister_state]
    exact holds.without spares
  | notify reported => exact holds.evictAll current reported
  | sweep =>
    rw [Discoverer.step, sweep_eq]
    exact holds.evictAll current _
  | setClock now => exact ⟨holds.component, holds.lease⟩

end Discovery.Discoverer
