import Discovery.Registry.Leases

/-!
# Orderly lease registries

A registry changes in two ways only: a lease that begins now is stored under its component, or the
lease of one component is removed. Both publish, so that the last snapshot is always the leases as
they are.

* `Orderly.store`, `Orderly.removeIf`: both ways keep the registry orderly;
* `Orderly.snapshot_indexes`: the snapshot's components are those that have leases, in order.
-/

namespace Discovery

namespace LeaseRegistry

variable {r : LeaseRegistry} {now : Instant} {lease : Lease} {index : ComponentIndex}
  {condition : Lease → Bool}

/-- Leases are kept under their components, have begun, and are published. -/
structure Orderly (r : LeaseRegistry) : Prop where
  own_index : ∀ {i lease}, r.get? i = some lease → lease.index = i
  started : ∀ {i lease}, r.get? i = some lease → ∃ start, lease.start = some start
  published : r.snapshot = r.leases.values

theorem orderly_new : Orderly new where
  own_index held := by cases held
  started held := by cases held
  published := rfl

/-! ## What storing and removing do -/

/-- Storing changes the lease of its component only. -/
theorem get?_store (i : ComponentIndex) :
    (r.store now lease).2.get? i =
      if lease.index = i then some { lease with start := some now } else r.get? i :=
  SortedMap.get?_insert ..

/-- What is removed is the lease if it satisfies the condition. -/
theorem fst_removeIf : (r.removeIf index condition).1 = (r.get? index).filter condition := by
  unfold removeIf
  cases held : r.get? index with
  | none => rfl
  | some lease =>
    by_cases holds : condition lease = true <;> simp [holds, Option.filter]

/-- Removing under a condition changes nothing or empties one component's place. -/
theorem get?_removeIf (i : ComponentIndex) :
    (r.removeIf index condition).2.get? i =
      if index = i ∧ (r.get? index).any condition = true then none else r.get? i := by
  unfold removeIf
  cases held : r.get? index with
  | none => simp
  | some lease =>
    by_cases holds : condition lease = true
    · simp only [holds, if_true, Option.any_some, and_true]
      exact SortedMap.get?_erase ..
    · simp [holds]

theorem get?_remove (i : ComponentIndex) :
    (r.remove index).2.get? i = if index = i then none else r.get? i := by
  unfold remove
  rw [get?_removeIf]
  by_cases here : index = i
  · subst here
    cases r.get? index <;> simp
  · simp [here]

theorem contains_store {i : ComponentIndex} :
    (r.store now lease).2.contains i = true ↔ lease.index = i ∨ r.contains i = true :=
  SortedMap.contains_insert

theorem contains_remove {i : ComponentIndex} :
    (r.remove index).2.contains i = true ↔ index ≠ i ∧ r.contains i = true := by
  show ((r.remove index).2.get? i).isSome = true ↔ index ≠ i ∧ (r.get? i).isSome = true
  rw [get?_remove]
  by_cases here : index = i <;> simp [here]

/-! ## Orderliness -/

theorem Orderly.store (orderly : r.Orderly) : (r.store now lease).2.Orderly where
  own_index held := by
    rw [get?_store] at held
    split at held
    · next here =>
      cases held
      exact here
    · exact orderly.own_index held
  started held := by
    rw [get?_store] at held
    split at held
    · cases held
      exact ⟨now, rfl⟩
    · exact orderly.started held
  published := rfl

theorem Orderly.removeIf (orderly : r.Orderly) : (r.removeIf index condition).2.Orderly where
  own_index held := by
    rw [get?_removeIf] at held
    split at held
    · cases held
    · exact orderly.own_index held
  started held := by
    rw [get?_removeIf] at held
    split at held
    · cases held
    · exact orderly.started held
  published := by
    -- only a removal that succeeds publishes
    unfold LeaseRegistry.removeIf
    split
    · exact orderly.published
    · split
      · rfl
      · exact orderly.published

/-! ## The snapshot -/

theorem Orderly.mem_snapshot_iff (orderly : r.Orderly) :
    lease ∈ r.snapshot ↔ r.get? lease.index = some lease := by
  rw [orderly.published, SortedMap.values, List.mem_map]
  constructor
  · rintro ⟨⟨i, lease⟩, mem, rfl⟩
    have held : r.get? i = some lease := SortedMap.mem_entries_iff.mp mem
    show r.get? lease.index = some lease
    rw [orderly.own_index held, held]
  · intro held
    exact ⟨(lease.index, lease), SortedMap.mem_entries_iff.mpr held, rfl⟩

/-- The components of the snapshot are those that have leases, in ascending order. -/
theorem Orderly.snapshot_indexes (orderly : r.Orderly) :
    r.snapshot.map (·.index) = r.leases.keys := by
  rw [orderly.published, SortedMap.values, SortedMap.keys, List.map_map]
  refine List.map_congr_left ?_
  rintro ⟨i, lease⟩ mem
  have held : r.get? i = some lease := SortedMap.mem_entries_iff.mp mem
  exact orderly.own_index held

end LeaseRegistry

end Discovery
