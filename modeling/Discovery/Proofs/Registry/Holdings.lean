import Discovery.Proofs.Registry.Leases

/-!
# The lease registry as a finite map

To those who use it a registry is a map from components to leases, beside a clock that it reads. `Rule` says for
every request what is answered and what changes then, without a word on how leases are kept; the registry answers
and changes by these rules and by no others. What was published last is always the map as it is.

* `Rule.unique`: for every request there is one rule at the most;
* `serve_rule`: the registry serves a request by a rule, and publishes if something changes;
* `run_orderly`: what holds of the registry after every run, by induction on the requests;
* `Reached.refines_map`: all of it together.
-/

namespace Discovery.LeaseRegistry

/-! ## Requests -/

/-- A registry with the clock that it reads. -/
structure Clocked where
  registry : LeaseRegistry
  now : Instant

/-- What is asked of a registry, or happens to its clock. -/
inductive Request where
  | add (lease : Lease)
  | renew (lease : Lease)
  | remove (index : ComponentIndex)
  | removeIf (index : ComponentIndex) (condition : Lease → Bool)
  /-- The clock is set, forwards or backwards. -/
  | setClock (now : Instant)

/-- What is answered: the lease that was recorded or removed, if there is one, or why none was recorded. -/
abbrev Answer := Except LeaseError (Option Lease)

namespace Clocked

def opened (now : Instant) : Clocked := ⟨.new, now⟩

/-- The answer where a lease was to be recorded, and the registry then. -/
def recorded (c : Clocked) : Except LeaseError (Lease × LeaseRegistry) → Answer × Clocked
  | .error error => (.error error, c)
  | .ok (lease, registry) => (.ok (some lease), { c with registry := registry })

/-- The answer where a lease was to be removed, and the registry then. -/
def removed (c : Clocked) (done : Option Lease × LeaseRegistry) : Answer × Clocked :=
  (.ok done.1, { c with registry := done.2 })

def serve (c : Clocked) : Request → Answer × Clocked
  | .add lease => c.recorded (c.registry.add c.now lease)
  | .renew lease => c.recorded (c.registry.renew c.now lease)
  | .remove index => c.removed (c.registry.remove index)
  | .removeIf index condition => c.removed (c.registry.removeIf index condition)
  | .setClock now => (.ok none, { c with now := now })

def run (c : Clocked) (requests : List Request) : Clocked :=
  requests.foldl (fun c request => (c.serve request).2) c

end Clocked

/-! ## Rules -/

/-- Which lease each component has. -/
abbrev Holdings := ComponentIndex → Option Lease

/-- What changes in the leases that are held: that of one component, or nothing. -/
abbrev Change := Option (ComponentIndex × Option Lease)

/-- The lease that is recorded when one is asked for: whatever start date it came with, it begins now. -/
def begun (now : Instant) (lease : Lease) : Lease := ⟨lease.index, some now, lease.slots⟩

/-- What a request is answered at a time while the given leases are held, and what changes then. -/
inductive Rule (now : Instant) (held : Holdings) : Request → Answer → Change → Prop where
  | added {lease : Lease} (free : held lease.index = none) :
    Rule now held (.add lease) (.ok (some (begun now lease))) (some (lease.index, some (begun now lease)))
  | notAdded {lease old : Lease} (taken : held lease.index = some old) :
    Rule now held (.add lease) (.error (.alreadyHeld lease.index)) none
  | renewed {lease old : Lease} (taken : held lease.index = some old) :
    Rule now held (.renew lease) (.ok (some (begun now lease))) (some (lease.index, some (begun now lease)))
  | notRenewed {lease : Lease} (free : held lease.index = none) :
    Rule now held (.renew lease) (.error (.notFound lease.index)) none
  | removed {index : ComponentIndex} {lease : Lease} (taken : held index = some lease) :
    Rule now held (.remove index) (.ok (some lease)) (some (index, none))
  | notRemoved {index : ComponentIndex} (free : held index = none) :
    Rule now held (.remove index) (.ok none) none
  | removedIf {index : ComponentIndex} {condition : Lease → Bool} {lease : Lease}
    (taken : held index = some lease) (holds : condition lease = true) :
    Rule now held (.removeIf index condition) (.ok (some lease)) (some (index, none))
  | notRemovedIf {index : ComponentIndex} {condition : Lease → Bool}
    (fails : ∀ lease, held index = some lease → condition lease = false) :
    Rule now held (.removeIf index condition) (.ok none) none
  | clockSet {later : Instant} : Rule now held (.setClock later) (.ok none) none

/-- For every request there is one rule at the most. -/
theorem Rule.unique {now : Instant} {held : Holdings} {request : Request} {answer answer' : Answer}
    {change change' : Change} (rule : Rule now held request answer change)
    (rule' : Rule now held request answer' change') : answer = answer' ∧ change = change' := by
  -- two rules of one request exclude each other by the lease that the component has
  cases rule <;> cases rule' <;> simp_all

/-- The second registry is the first one after a change. Every change is published once; if there is none, nothing
is published and the registry is the same. -/
def Changes (r r' : LeaseRegistry) : Change → Prop
  | none => r' = r
  | some (index, lease?) =>
    (∀ i, r'.get? i = if index = i then lease? else r.get? i) ∧ r'.publications = r.publications + 1

/-- The snapshot is that of the leases that are held: each of them once, under its component, in ascending order. -/
structure Current (r : LeaseRegistry) : Prop where
  own_index : ∀ i lease, r.get? i = some lease → lease.index = i
  ascending : (r.snapshot.map (·.index)).Pairwise (· < ·)
  listed : ∀ lease, lease ∈ r.snapshot ↔ r.get? lease.index = some lease

theorem Orderly.current {r : LeaseRegistry} (orderly : r.Orderly) : r.Current where
  own_index _ _ := orderly.own_index
  ascending := orderly.snapshot_indexes ▸ r.leases.keys_ascending
  listed _ := orderly.mem_snapshot_iff

/-! ## The registry follows the rules -/

variable {r : LeaseRegistry} {now : Instant} {lease old : Lease} {index : ComponentIndex}
  {condition : Lease → Bool}

theorem add_of_free (free : r.get? lease.index = none) : r.add now lease = .ok (r.store now lease) :=
  if_neg (SortedMap.not_contains_iff.mpr free)

theorem add_of_taken (taken : r.get? lease.index = some old) :
    r.add now lease = .error (.alreadyHeld lease.index) :=
  if_pos (SortedMap.contains_iff.mpr ⟨old, taken⟩)

theorem renew_of_taken (taken : r.get? lease.index = some old) : r.renew now lease = .ok (r.store now lease) :=
  if_pos (SortedMap.contains_iff.mpr ⟨old, taken⟩)

theorem renew_of_free (free : r.get? lease.index = none) :
    r.renew now lease = .error (.notFound lease.index) :=
  if_neg (SortedMap.not_contains_iff.mpr free)

theorem changes_store : r.Changes (r.store now lease).2 (some (lease.index, some (begun now lease))) :=
  ⟨get?_store, rfl⟩

/-- Removing a lease that satisfies the condition is a change, and the lease is answered. -/
theorem removeIf_of_holds (condition : Lease → Bool) (taken : r.get? index = some lease)
    (holds : condition lease = true) :
    (r.removeIf index condition).1 = some lease ∧
      r.Changes (r.removeIf index condition).2 (some (index, none)) := by
  refine ⟨?_, fun i => ?_, ?_⟩
  · rw [fst_removeIf, taken, Option.filter_some, if_pos holds]
  · rw [get?_removeIf, taken, Option.any_some, holds]
    simp only [and_true]
  · rw [removeIf, taken]
    simp only [holds, if_true]
    rfl

/-- Where there is no lease that satisfies the condition nothing is removed. -/
theorem removeIf_of_fails (fails : ∀ lease, r.get? index = some lease → condition lease = false) :
    r.removeIf index condition = (none, r) := by
  rw [removeIf]
  cases taken : r.get? index with
  | none => rfl
  | some lease => simp only [fails lease taken, Bool.false_eq_true, if_false]

namespace Clocked

/-- A request is served by a rule, and changes the registry accordingly. -/
theorem serve_rule (c : Clocked) (request : Request) :
    ∃ change, Rule c.now c.registry.get? request (c.serve request).1 change ∧
      c.registry.Changes (c.serve request).2.registry change := by
  cases request with
  | add lease =>
    rw [serve]
    cases taken : c.registry.get? lease.index with
    | none =>
      rw [add_of_free taken]
      exact ⟨_, .added taken, changes_store⟩
    | some old =>
      rw [add_of_taken taken]
      exact ⟨none, .notAdded taken, rfl⟩
  | renew lease =>
    rw [serve]
    cases taken : c.registry.get? lease.index with
    | none =>
      rw [renew_of_free taken]
      exact ⟨none, .notRenewed taken, rfl⟩
    | some old =>
      rw [renew_of_taken taken]
      exact ⟨_, .renewed taken, changes_store⟩
  | remove index =>
    rw [serve, remove, removed]
    cases taken : c.registry.get? index with
    | none =>
      rw [removeIf_of_fails (fun lease held => by rw [taken] at held; cases held)]
      exact ⟨none, .notRemoved taken, rfl⟩
    | some lease =>
      obtain ⟨answer, changes⟩ := removeIf_of_holds (fun _ => true) taken rfl
      rw [answer]
      exact ⟨_, .removed taken, changes⟩
  | removeIf index condition =>
    rw [serve, removed]
    -- removing under a condition succeeds if there is a lease and it satisfies the condition
    by_cases found : ∃ lease, c.registry.get? index = some lease ∧ condition lease = true
    · obtain ⟨lease, taken, holds⟩ := found
      obtain ⟨answer, changes⟩ := removeIf_of_holds condition taken holds
      rw [answer]
      exact ⟨_, .removedIf taken holds, changes⟩
    · have fails : ∀ lease, c.registry.get? index = some lease → condition lease = false := by
        intro lease taken
        exact Bool.eq_false_iff.mpr fun holds => found ⟨lease, taken, holds⟩
      rw [removeIf_of_fails fails]
      exact ⟨none, .notRemovedIf fails, rfl⟩
  | setClock now => exact ⟨none, .clockSet, rfl⟩

/-! ## Runs -/

theorem serve_orderly {c : Clocked} (orderly : c.registry.Orderly) (request : Request) :
    (c.serve request).2.registry.Orderly := by
  cases request with
  | add lease =>
    rw [serve, add]
    split
    · exact orderly
    · exact orderly.store
  | renew lease =>
    rw [serve, renew]
    split
    · exact orderly.store
    · exact orderly
  | remove index => exact orderly.removeIf
  | removeIf index condition => exact orderly.removeIf
  | setClock now => exact orderly

theorem run_orderly {c : Clocked} (orderly : c.registry.Orderly) (requests : List Request) :
    (c.run requests).registry.Orderly := by
  induction requests generalizing c with
  | nil => exact orderly
  | cons request requests ih => exact ih (serve_orderly orderly request)

/-- The registries that requests lead to. -/
def Reached (c : Clocked) : Prop :=
  ∃ start requests, (opened start).run requests = c

/-- After every run, whatever the requests and however the clock moved, the registry is a map of leases, each under
its component, and the snapshot that was published last lists it in ascending order. What any further request is
answered and changes is told by the rules: a lease is added if and only if the component has none, renewed if and
only if it has one, and begins by the clock of this moment; it is removed if and only if there is one that satisfies
the condition. The other leases stay, a change is published, and without a change the registry is the same. -/
theorem Reached.refines_map {c : Clocked} (reached : c.Reached) :
    c.registry.Current ∧
      ∀ request, ∃ change,
        (∀ answer change', Rule c.now c.registry.get? request answer change' ↔
          answer = (c.serve request).1 ∧ change' = change) ∧
        c.registry.Changes (c.serve request).2.registry change := by
  obtain ⟨start, requests, rfl⟩ := reached
  have orderly : ((opened start).run requests).registry.Orderly := run_orderly orderly_new requests
  refine ⟨orderly.current, ?_⟩
  intro request
  obtain ⟨change, rule, changes⟩ := serve_rule ((opened start).run requests) request
  refine ⟨change, ?_, changes⟩
  -- the rules give one answer and one change, and these are the registry's
  intro answer change'
  constructor
  · intro other
    exact other.unique rule
  · rintro ⟨rfl, rfl⟩
    exact rule

/-- Leases that come with dates of their own, one of them for a component that has one, while the clock goes back. -/
def rush : List Request :=
  [.add ⟨7, some ⟨999, 0⟩, 2⟩, .setClock ⟨50, 0⟩, .add ⟨3, none, 1⟩, .add ⟨7, none, 9⟩, .renew ⟨5, none, 1⟩,
    .setClock ⟨20, 0⟩, .renew ⟨7, some ⟨999, 0⟩, 4⟩, .removeIf 3 fun lease => lease.slots = 9, .remove 8]

theorem refines_map_after_rush :
    ((opened ⟨0, 0⟩).run rush).registry.snapshot = [⟨3, some ⟨50, 0⟩, 1⟩, ⟨7, some ⟨20, 0⟩, 4⟩] ∧
      ((opened ⟨0, 0⟩).run rush).registry.publications = 3 ∧
      (((opened ⟨0, 0⟩).run rush).serve (.add ⟨7, none, 1⟩)).1 = .error (.alreadyHeld 7) ∧
      (((opened ⟨0, 0⟩).run rush).serve (.add ⟨7, none, 1⟩)).2.registry =
        ((opened ⟨0, 0⟩).run rush).registry := by
  obtain ⟨-, rules⟩ := Reached.refines_map (c := (opened ⟨0, 0⟩).run rush) ⟨_, _, rfl⟩
  obtain ⟨change, exactly, changes⟩ := rules (.add ⟨7, none, 1⟩)
  have taken : ((opened ⟨0, 0⟩).run rush).registry.get? 7 = some ⟨7, some ⟨20, 0⟩, 4⟩ := by decide +kernel
  obtain ⟨refused, same⟩ := (exactly _ none).mp (.notAdded taken)
  rw [← same] at changes
  exact ⟨by decide +kernel, by decide +kernel, refused.symm, changes⟩

end Clocked

end Discovery.LeaseRegistry
