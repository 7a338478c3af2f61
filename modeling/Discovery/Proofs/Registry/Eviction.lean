import Discovery.Proofs.Lease.Expiry
import Discovery.Proofs.Registry.Coherence

/-!
# Eviction is exact

A notification names components by a list that may be out of date. Whether one of them is evicted is
decided by the lease that it has when its turn comes. `Shrinks` says what is left when some components
are gone: all that the stores hold of the others, and nothing of these.

* `Coherent.without_shrinks`: removing one component, in all records at once;
* `Coherent.evictAll_shrinks`: a notification, by induction on the list that was reported;
* `Reached.eviction_exact`: notifications and sweeps in reached states.
-/

namespace Discovery

namespace Discoverer

variable {d d' d'' : Discoverer} {gone gone' : ComponentIndex → Bool} {now : Instant}
  {index : ComponentIndex}

/-- The second discoverer is the first without the components that are gone. -/
structure Shrinks (gone : ComponentIndex → Bool) (d d' : Discoverer) : Prop where
  components : ∀ i, d'.directory.get? i = if gone i then none else d.directory.get? i
  leases : ∀ i, d'.leases.get? i = if gone i then none else d.leases.get? i
  tables : ∀ f v i, d'.directory.tables.lists f v i = true ↔
    d.directory.tables.lists f v i = true ∧ ¬ gone i = true
  ids : ∀ id i, d'.directory.indexOf? id = some i ↔
    d.directory.indexOf? id = some i ∧ ¬ gone i = true
  nextIndex : d'.directory.nextIndex = d.directory.nextIndex
  clock : d'.now = d.now
  settings : d'.settings = d.settings

namespace Shrinks

theorem refl (d : Discoverer) : Shrinks (fun _ => false) d d where
  components _ := rfl
  leases _ := rfl
  tables _ _ _ := by simp
  ids _ _ := by simp
  nextIndex := rfl
  clock := rfl
  settings := rfl

theorem congr (shrinks : Shrinks gone d d') (same : ∀ i, gone i = gone' i) :
    Shrinks gone' d d' := by
  rw [← funext same]
  exact shrinks

/-- What is gone at the end went first or went later. -/
theorem trans (first : Shrinks gone d d') (later : Shrinks gone' d' d'') :
    Shrinks (fun i => gone i || gone' i) d d'' where
  components i := by
    rw [later.components, first.components]
    cases gone i <;> cases gone' i <;> rfl
  leases i := by
    rw [later.leases, first.leases]
    cases gone i <;> cases gone' i <;> rfl
  tables f v i := by
    rw [later.tables, first.tables, Bool.or_eq_true, not_or, and_assoc]
  ids id i := by
    rw [later.ids, first.ids, Bool.or_eq_true, not_or, and_assoc]
  nextIndex := later.nextIndex.trans first.nextIndex
  clock := later.clock.trans first.clock
  settings := later.settings.trans first.settings

/-- The leases that are left are expired when they were expired before. -/
theorem expired_eq (shrinks : Shrinks gone d d') (i : ComponentIndex) :
    d'.expired now i = (!gone i && d.expired now i) := by
  unfold expired
  rw [shrinks.leases, shrinks.settings]
  cases gone i <;> rfl

theorem contains_iff (shrinks : Shrinks gone d d') {i : ComponentIndex} :
    d'.directory.contains i = true ↔ d.directory.contains i = true ∧ ¬ gone i = true := by
  show (d'.directory.get? i).isSome = true ↔ (d.directory.get? i).isSome = true ∧ _
  rw [shrinks.components]
  cases gone i <;> simp

/-- What is left was there before. -/
theorem get?_of_get? (shrinks : Shrinks gone d d') {i : ComponentIndex} {c : Component}
    (left : d'.directory.get? i = some c) : d.directory.get? i = some c := by
  rw [shrinks.components] at left
  split at left
  · cases left
  · exact left

end Shrinks

/-! ## One component -/

theorem Coherent.without_shrinks (coherent : d.Coherent) :
    Shrinks (fun i => decide (index = i)) d (d.without index) where
  components i := by
    show (d.directory.remove index).2.components.get? i = _
    simp [Directory.get?_remove, Directory.get?]
  leases i := by
    show (d.leases.remove index).2.get? i = _
    simp [LeaseRegistry.get?_remove]
  tables f v i := by
    show (d.directory.remove index).2.tables.lists f v i = true ↔ _
    simp [coherent.directory.lists_remove]
  ids id i := by
    show (d.directory.remove index).2.ids.get? id = some i ↔ _
    simp [coherent.directory.ids_remove, Directory.indexOf?]
  nextIndex := Directory.nextIndex_remove
  clock := rfl
  settings := rfl

theorem Coherent.evict_shrinks (coherent : d.Coherent) (now : Instant) (index : ComponentIndex) :
    Shrinks (fun i => decide (i = index) && d.expired now i) d (d.evictIfExpired now index) := by
  rw [evictIfExpired_eq]
  by_cases ended : d.expired now index = true
  · rw [if_pos ended]
    refine coherent.without_shrinks.congr ?_
    intro i
    by_cases here : index = i
    · simp [← here, ended]
    · simp [here, Ne.symm here]
  · rw [if_neg ended]
    refine (Shrinks.refl d).congr ?_
    intro i
    by_cases here : i = index
    · subst here
      simp [ended]
    · simp [here]

/-! ## A list of components -/

theorem Coherent.evictAll (coherent : d.Coherent) (now : Instant) (reported : List ComponentIndex) :
    (d.evictAll now reported).Coherent :=
  evictAll_induction (P := Coherent) (fun _ _ coherent => coherent.without) reported coherent

/-- Gone are the reported components whose leases are expired, however often and in which order they
are reported. -/
theorem Coherent.evictAll_shrinks (coherent : d.Coherent) (now : Instant)
    (reported : List ComponentIndex) :
    Shrinks (fun i => decide (i ∈ reported) && d.expired now i) d (d.evictAll now reported) := by
  induction reported generalizing d with
  | nil =>
    refine (Shrinks.refl d).congr ?_
    intro i
    simp
  | cons index reported ih =>
    have first := coherent.evict_shrinks now index
    have coherentAfter : (d.evictIfExpired now index).Coherent := coherent.evictAll now [index]
    have later := ih coherentAfter
    refine (first.trans later).congr ?_
    intro i
    -- an expired lease that went first is no longer there to be expired
    rw [first.expired_eq]
    by_cases here : i = index
    · simp only [here, decide_true, Bool.true_and, List.mem_cons, true_or]
      cases d.expired now index <;> simp
    · simp [here]

/-- Where no reported lease is expired, nothing happens. -/
theorem evictAll_eq_self {reported : List ComponentIndex}
    (current : ∀ i ∈ reported, d.expired now i = false) : d.evictAll now reported = d := by
  induction reported with
  | nil => rfl
  | cons index reported ih =>
    obtain ⟨here, rest⟩ := List.forall_mem_cons.mp current
    have unchanged : d.evictIfExpired now index = d := by
      rw [evictIfExpired_eq, here]
      rfl
    show (d.evictIfExpired now index).evictAll now reported = d
    rw [unchanged]
    exact ih rest

/-! ## Sweeps -/

/-- A coherent discoverer knows every component of the snapshot. -/
theorem Coherent.live_eq (coherent : d.Coherent) :
    Sweeper.live d.leases.snapshot d = d.directory.components.keys := by
  unfold Sweeper.live
  rw [coherent.leases.snapshot_indexes, ← coherent.keys_eq, List.filter_eq_self]
  intro i mem
  exact SortedMap.mem_keys_iff.mp mem

theorem Coherent.sweep_eq (coherent : d.Coherent) :
    d.sweep = (d.directory.components.keys, d.notifyExpiring d.directory.components.keys) := by
  rw [Discoverer.sweep_eq, coherent.live_eq]

theorem Coherent.sweep_shrinks (coherent : d.Coherent) :
    Shrinks (d.expired d.now) d d.sweep.2 := by
  rw [coherent.sweep_eq]
  refine (coherent.evictAll_shrinks d.now d.directory.components.keys).congr ?_
  intro i
  by_cases known : d.directory.contains i = true
  · have mem : i ∈ d.directory.components.keys := SortedMap.mem_keys_iff.mpr known
    simp [mem]
  · -- without a lease nothing is expired
    have unleased : d.leases.get? i = none :=
      SortedMap.not_contains_iff.mp fun held => known (coherent.same.mp held)
    simp [expired, unleased]

/-- After a sweep no lease is expired by the clock, so that a second sweep changes nothing. -/
theorem Coherent.sweep_sweep (coherent : d.Coherent) : d.sweep.2.sweep.2 = d.sweep.2 := by
  have shrinks := coherent.sweep_shrinks
  have coherentAfter : d.sweep.2.Coherent := by
    rw [coherent.sweep_eq]
    exact coherent.evictAll d.now _
  rw [coherentAfter.sweep_eq]
  refine evictAll_eq_self ?_
  intro i _
  rw [shrinks.expired_eq, shrinks.clock]
  cases d.expired d.now i <;> rfl

/-! ## Leases that have only begun -/

/-- No eviction takes a component whose lease began at the eviction's time or after it. -/
theorem Coherent.evictAll_keeps (coherent : d.Coherent) {lease : Lease} {start : Instant}
    (held : d.leases.get? index = some lease) (begun : lease.start = some start)
    (notPassed : ¬ start.isBefore now = true) (reported : List ComponentIndex) :
    (d.evictAll now reported).leases.get? index = some lease ∧
      (d.evictAll now reported).directory.contains index = true := by
  have shrinks := coherent.evictAll_shrinks now reported
  have current : d.expired now index = false := by
    unfold expired
    rw [held, Option.any_some, Lease.not_isExpired begun notPassed]
  constructor
  · rw [shrinks.leases, current, held]
    simp
  · rw [shrinks.contains_iff, current]
    refine ⟨coherent.same.mp ?_, by simp⟩
    exact SortedMap.contains_iff.mpr ⟨lease, held⟩

/-- What was stored by the clock just now is kept likewise. -/
theorem Coherent.evictAll_keeps_stored (coherent : d'.Coherent) {lease : Lease}
    (leases : d'.leases = (d.leases.store d.now lease).2)
    (notPassed : ¬ d.now.isBefore now = true) (reported : List ComponentIndex) :
    (d'.evictAll now reported).leases.get? lease.index = some (d.leases.store d.now lease).1 ∧
      (d'.evictAll now reported).directory.contains lease.index = true := by
  have held : d'.leases.get? lease.index = some (d.leases.store d.now lease).1 := by
    rw [leases, LeaseRegistry.get?_store, if_pos rfl]
    rfl
  exact coherent.evictAll_keeps held rfl notPassed reported

/-- In every reached state: a notification evicts exactly the reported components whose leases are
expired by the clock, and leaves all that is recorded of the others. A sweep reports all components in
ascending order and is a notification of these; the components that it leaves are those whose leases
are not expired, and a second sweep finds nothing to do. An eviction at some time takes no component
whose lease began then or later, nor one that has just registered or renewed its lease then or later,
whatever was reported. -/
theorem Reached.eviction_exact (reached : d.Reached) :
    (∀ reported, Shrinks (fun i => decide (i ∈ reported) && d.expired d.now i) d
      (d.notifyExpiring reported)) ∧
      d.sweep = (d.directory.components.keys, d.notifyExpiring d.directory.components.keys) ∧
      d.sweep.1.Pairwise (· < ·) ∧
      (∀ i, d.sweep.2.directory.contains i = true ↔
        d.directory.contains i = true ∧ ¬ d.expired d.now i = true) ∧
      d.sweep.2.sweep.2 = d.sweep.2 ∧
      (∀ now index lease start, d.leases.get? index = some lease → lease.start = some start →
        ¬ start.isBefore now = true → ∀ reported,
          (d.evictAll now reported).leases.get? index = some lease ∧
            (d.evictAll now reported).directory.contains index = true) ∧
      ∀ now, ¬ d.now.isBefore now = true →
        (∀ r lease after, d.register r = (.ok lease, after) → ∀ reported,
          (after.evictAll now reported).leases.get? lease.index = some lease ∧
            (after.evictAll now reported).directory.contains lease.index = true) ∧
        ∀ h lease after, d.heartbeat h = (.ok lease, after) → ∀ reported,
          (after.evictAll now reported).leases.get? h.index = some lease ∧
            (after.evictAll now reported).directory.contains h.index = true := by
  have coherent := reached.coherent.1
  refine ⟨coherent.evictAll_shrinks d.now, coherent.sweep_eq, ?_, ?_, coherent.sweep_sweep, ?_, ?_⟩
  · rw [coherent.sweep_eq]
    exact SortedMap.keys_ascending _
  · intro i
    exact coherent.sweep_shrinks.contains_iff
  · intro now index lease start held begun notPassed reported
    exact coherent.evictAll_keeps held begun notPassed reported
  · intro now notPassed
    constructor
    · intro r lease after answered reported
      -- a lease that was granted now begins now, and is not expired before
      have coherentAfter := coherent.register reached.next_free r
      rcases register_cases coherent reached.next_free r with
        ⟨-, refused⟩ | ⟨directory, unstarted, -, -, granted⟩
      · rw [refused] at answered
        cases answered
      · rw [granted] at answered coherentAfter
        cases answered
        exact coherentAfter.evictAll_keeps_stored rfl notPassed reported
    · intro h lease after answered reported
      have coherentAfter := coherent.heartbeat h
      rcases heartbeat_cases d h with ⟨-, refused⟩ | ⟨old, unstarted, -, rfl, granted⟩
      · rw [refused] at answered
        cases answered
      · rw [granted] at answered coherentAfter
        cases answered
        exact coherentAfter.evictAll_keeps_stored rfl notPassed reported

theorem evicted_after_morning :
    afterMorning.Reached ∧ afterMorning.sweep.1 = [1, 2] ∧
      afterMorning.sweep.2.directory.contains 1 = true ∧
      ¬ afterMorning.sweep.2.directory.contains 2 = true ∧
      afterMorning.sweep.2.sweep.2 = afterMorning.sweep.2 := by
  rcases Reached.eviction_exact afterMorning_reached with ⟨-, sweep, -, left, again, -⟩
  refine ⟨afterMorning_reached, ?_, ?_, ?_, again⟩
  · rw [sweep]
    decide +kernel
  · rw [left]
    decide +kernel
  · rw [left]
    decide +kernel

end Discoverer

end Discovery
