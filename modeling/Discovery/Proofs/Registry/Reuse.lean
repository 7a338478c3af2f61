import Discovery.Proofs.Registry.Spared

/-!
# When the indexes have gone round

Indexes are handed out in ascending order, and begin again after the last one. While the next index has no lease, a
registration disturbs nobody, however many there have been before: it is given an index that no component has, and
all that is recorded of the others stays; or it is refused for its id, and nothing changes. Once the next index has a
lease again, a registration of a new id is refused as well. But the component that had this index has been
overwritten by then and is taken out with the new one, while its lease is left behind.

* `Directory.ReachedAfresh`: directories of which no index has been handed out a second time too early;
* `leased_run`: every component has a lease, in every state of every run;
* `register_keeps_others`: a registration changes what is recorded of the next index only;
* `register_disturbs_none_iff`: when a registration disturbs nobody;
* `Alone.round`: a component comes and goes beside another, and the next index is one further;
* `resident_overwritten`: after `2 ^ 32` registrations one of them takes out a component that is not its own.
-/

namespace Discovery

/-! ## Directories -/

namespace Directory

variable {d d' : Directory} {r : Registration} {index : ComponentIndex}

/-- The directories that insertions and removals lead to, however many, if no insertion is given an index that a
component has. -/
inductive ReachedAfresh : Directory → Prop where
  | new : ReachedAfresh .new
  | insert {d d' : Directory} {r : Registration} {index : ComponentIndex} (before : ReachedAfresh d)
    (free : ¬ d.contains d.nextIndex = true) (done : d.insert r = .ok (index, d')) : ReachedAfresh d'
  | remove {d : Directory} (before : ReachedAfresh d) (index : ComponentIndex) : ReachedAfresh (d.remove index).2

theorem ReachedAfresh.consistent (reached : d.ReachedAfresh) : d.Consistent := by
  induction reached with
  | new => exact consistent_new
  | insert before free done ih => exact ih.insert (SortedMap.not_contains_iff.mp free) done
  | remove before index ih => exact ih.remove

/-- All that is recorded of components with other indexes is the same: the description, what the tables list, and the
ids that lead to them. -/
structure KeepsOthers (index : ComponentIndex) (d d' : Directory) : Prop where
  components : ∀ i, i ≠ index → d'.get? i = d.get? i
  tables : ∀ i, i ≠ index → ∀ f v, d'.tables.lists f v i = d.tables.lists f v i
  ids : ∀ i, i ≠ index → ∀ id, d'.indexOf? id = some i ↔ d.indexOf? id = some i

theorem keepsOthers_refl (index : ComponentIndex) (d : Directory) : KeepsOthers index d d where
  components _ _ := rfl
  tables _ _ _ _ := rfl
  ids _ _ _ := Iff.rfl

theorem KeepsOthers.trans {d₁ d₂ d₃ : Directory} (first : KeepsOthers index d₁ d₂)
    (second : KeepsOthers index d₂ d₃) : KeepsOthers index d₁ d₃ where
  components i other := (second.components i other).trans (first.components i other)
  tables i other f v := (second.tables i other f v).trans (first.tables i other f v)
  ids i other id := (second.ids i other id).trans (first.ids i other id)

theorem keepsOthers_insert (done : d.insert r = .ok (index, d')) : KeepsOthers index d d' := by
  rcases insert_ok done with ⟨idFree, -, rfl⟩
  constructor
  case components =>
    intro i other
    exact (SortedMap.get?_insert ..).trans (if_neg other.symm)
  case tables =>
    intro i other f v
    rw [Bool.eq_iff_iff, IndexTables.lists_addAll]
    simp [Registration.component, other.symm]
  case ids =>
    intro i other id
    show (d.ids.insert r.id index).get? id = some i ↔ d.ids.get? id = some i
    rw [SortedMap.get?_insert]
    -- the new id led nowhere before
    by_cases same : r.id = id
    · subst same
      simp [idFree, other.symm]
    · rw [if_neg same]

/-- Removing a component that is stored under its index, and to whose index its id leads. -/
theorem keepsOthers_remove {c : Component} (known : d.get? index = some c) (own : c.index = index)
    (led : d.indexOf? c.id = some index) : KeepsOthers index d (d.remove index).2 := by
  have removed : (d.remove index).2 =
      { d with
        components := d.components.erase index
        tables := d.tables.removeAll c
        ids := d.ids.erase c.id } := by
    unfold remove
    rw [show d.components.get? index = some c from known]
  rw [removed]
  constructor
  case components =>
    intro i other
    exact (SortedMap.get?_erase ..).trans (if_neg other.symm)
  case tables =>
    intro i other f v
    rw [Bool.eq_iff_iff, IndexTables.lists_removeAll, own]
    simp [other.symm]
  case ids =>
    intro i other id
    show (d.ids.erase c.id).get? id = some i ↔ d.ids.get? id = some i
    rw [SortedMap.get?_erase]
    -- the id that is forgotten led to the component itself
    by_cases same : c.id = id
    · subst same
      rw [if_pos rfl, show d.ids.get? c.id = some index from led]
      simp [other.symm]
    · rw [if_neg same]

/-- What an insertion enters can be removed again; the others keep what they have. -/
theorem keepsOthers_undone (done : d.insert r = .ok (index, d')) : KeepsOthers index d (d'.remove index).2 := by
  refine (keepsOthers_insert done).trans ?_
  rcases insert_ok done with ⟨-, -, rfl⟩
  refine keepsOthers_remove (c := r.component index) ?_ rfl ?_
  · exact (SortedMap.get?_insert ..).trans (if_pos rfl)
  · exact (SortedMap.get?_insert ..).trans (if_pos rfl)

end Directory

namespace Discoverer

variable {d d' : Discoverer} {r : Registration} {index : ComponentIndex} {op : Operation}

/-! ## Every component has a lease -/

/-- Every component has a lease. A lease may be left without a component. -/
def Leased (d : Discoverer) : Prop :=
  ∀ i, d.directory.contains i = true → d.leases.contains i = true

theorem Leased.without (leased : d.Leased) : (d.without index).Leased := by
  intro i known
  obtain ⟨other, before⟩ := Directory.contains_remove.mp known
  exact LeaseRegistry.contains_remove.mpr ⟨other, leased i before⟩

theorem Leased.register (leased : d.Leased) (r : Registration) : (d.register r).2.Leased := by
  rcases register_outcomes d r with ⟨-, refused⟩ | ⟨directory, done, ⟨-, undone⟩ | ⟨_, rfl, entered⟩⟩
  · rw [refused]
    exact leased
  · rw [undone]
    intro i known
    obtain ⟨other, inserted⟩ := Directory.contains_remove.mp known
    exact leased i (((Directory.contains_of_insert done).mp inserted).resolve_left other)
  · rw [entered]
    intro i known
    exact LeaseRegistry.contains_store.mpr (((Directory.contains_of_insert done).mp known).imp_right (leased i))

theorem Leased.heartbeat (leased : d.Leased) (h : Heartbeat) : (d.heartbeat h).2.Leased := by
  rcases heartbeat_cases d h with ⟨-, refused⟩ | ⟨old, _, -, rfl, granted⟩
  · rw [refused]
    exact leased
  · rw [granted]
    exact fun i known => LeaseRegistry.contains_store.mpr (.inr (leased i known))

theorem Leased.step (leased : d.Leased) (op : Operation) : (d.step op).Leased := by
  have evicted : ∀ reported, (d.evictAll d.now reported).Leased := by
    intro reported
    exact evictAll_induction (P := Leased) (fun _ _ leased => leased.without) reported leased
  cases op with
  | register r => exact leased.register r
  | heartbeat h => exact leased.heartbeat h
  | deregister i =>
    rw [Discoverer.step, deregister_state]
    exact leased.without
  | notify reported => exact evicted reported
  | sweep =>
    rw [Discoverer.step, sweep_eq]
    exact evicted _
  | setClock now => exact leased

/-- In every state of every run each component has a lease, by induction on the operations. -/
theorem leased_run (settings : LeaseSettings) (now : Instant) (ops : List Operation) :
    (machine.run (new settings now) ops).Leased := by
  have all : ∀ s : Discoverer, s.Leased → (machine.run s ops).Leased := by
    induction ops with
    | nil => exact fun _ leased => leased
    | cons op ops ih => exact fun s leased => ih _ (leased.step op)
  exact all _ (fun i known => nomatch known)

/-! ## What a registration does to the others -/

/-- All that is recorded of components with other indexes is the same, the lease included. -/
structure KeepsOthers (index : ComponentIndex) (d d' : Discoverer) : Prop where
  directory : d.directory.KeepsOthers index d'.directory
  leases : ∀ i, i ≠ index → d'.leases.get? i = d.leases.get? i

/-- A registration changes what is recorded of the next index only, also if it is taken back. -/
theorem register_keeps_others (d : Discoverer) (r : Registration) :
    KeepsOthers d.directory.nextIndex d (d.register r).2 := by
  rcases register_outcomes d r with ⟨-, refused⟩ | ⟨directory, done, ⟨-, undone⟩ | ⟨_, rfl, entered⟩⟩
  · rw [refused]
    exact ⟨Directory.keepsOthers_refl .., fun _ _ => rfl⟩
  · rw [undone]
    exact ⟨Directory.keepsOthers_undone done, fun _ _ => rfl⟩
  · rw [entered]
    refine ⟨Directory.keepsOthers_insert done, ?_⟩
    intro i other
    exact (LeaseRegistry.get?_store _).trans (if_neg other.symm)

/-- The next index has a lease, and the id is one that no component has. -/
def Collides (d : Discoverer) (r : Registration) : Prop :=
  ¬ d.directory.ids.contains r.id = true ∧ d.leases.contains d.directory.nextIndex = true

/-- If it succeeds, the index that it gives is no component's before, and the others keep all that they have; if it
is refused, nothing changes. -/
def DisturbsNone (d : Discoverer) (r : Registration) : Prop :=
  match d.register r with
  | (.ok lease, after) => ¬ d.directory.contains lease.index = true ∧ KeepsOthers lease.index d after
  | (.error _, after) => after = d

theorem disturbsNone_of_not_collides (leased : d.Leased) (apart : ¬ d.Collides r) : d.DisturbsNone r := by
  have keeps := register_keeps_others d r
  unfold DisturbsNone
  rcases register_outcomes d r with ⟨-, refused⟩ | ⟨directory, done, ⟨held, -⟩ | ⟨_, rfl, entered⟩⟩
  · rw [refused]
  · exact absurd ⟨SortedMap.not_contains_iff.mpr (Directory.insert_ok done).1, held⟩ apart
  · rw [entered] at keeps ⊢
    refine ⟨?_, keeps⟩
    intro known
    have free := SortedMap.not_contains_iff.mpr (Directory.insert_ok done).1
    exact apart ⟨free, leased _ known⟩

/-- A registration is refused for the lease that is held under the next index. There is no component under this index
afterwards, even if there was one; the index is passed over; the leases are the same, and so is all that is recorded
of other indexes. -/
structure TakenBack (d : Discoverer) (r : Registration) : Prop where
  refused : (d.register r).1 = .error (.lease (.alreadyHeld d.directory.nextIndex))
  gone : (d.register r).2.directory.get? d.directory.nextIndex = none
  passedOver : (d.register r).2.directory.nextIndex = d.directory.nextIndex + 1
  leases : (d.register r).2.leases = d.leases
  others : KeepsOthers d.directory.nextIndex d (d.register r).2

theorem takenBack_of_collides (collides : d.Collides r) : d.TakenBack r := by
  have others := register_keeps_others d r
  rcases collides with ⟨idFree, held⟩
  rcases register_outcomes d r with ⟨taken, -⟩ | ⟨directory, done, ⟨-, undone⟩ | ⟨_, -, entered⟩⟩
  · exact absurd taken idFree
  · constructor
    case refused => rw [undone]
    case gone =>
      rw [undone]
      exact (Directory.get?_remove _).trans (if_pos rfl)
    case passedOver =>
      rw [undone]
      rcases Directory.insert_ok done with ⟨-, -, rfl⟩
      exact Directory.nextIndex_remove
    case leases => rw [undone]
    case others => exact others
  · -- no lease is granted in place of one that is held
    have refused : (d.register r).1 = .error (.lease (.alreadyHeld d.directory.nextIndex)) := by
      unfold register
      rw [done]
      simp [LeaseRegistry.add, Lease.unstarted, held]
    rw [entered] at refused
    cases refused

theorem TakenBack.disturbs (back : d.TakenBack r) : ¬ d.DisturbsNone r := by
  intro none
  have refused := back.refused
  have passedOver := back.passedOver
  unfold DisturbsNone at none
  cases answer : d.register r with
  | mk granted after =>
    rw [answer] at none refused passedOver
    subst refused
    -- no index is the one after itself
    rw [show after = d from none] at passedOver
    simp at passedOver

/-- After any operations, however many registrations are among them, a registration disturbs nobody unless it
collides. Below the limit none collides, and one that does is taken back. -/
theorem register_disturbs_none_iff (settings : LeaseSettings) (now : Instant) (ops : List Operation)
    (r : Registration) :
    ((machine.run (new settings now) ops).DisturbsNone r ↔ ¬ (machine.run (new settings now) ops).Collides r) ∧
      (machine.admissions (new settings now) ops < indexLimit → ¬ (machine.run (new settings now) ops).Collides r) ∧
      ((machine.run (new settings now) ops).Collides r → (machine.run (new settings now) ops).TakenBack r) := by
  refine ⟨⟨?_, ?_⟩, ?_, takenBack_of_collides⟩
  · exact fun none collides => (takenBack_of_collides collides).disturbs none
  · exact disturbsNone_of_not_collides (leased_run settings now ops)
  · -- below the limit the next index is new, and a lease has a component
    rintro few ⟨-, held⟩
    have reached : (machine.run (new settings now) ops).Reached := ⟨_, ops, ⟨settings, now, rfl⟩, few, rfl⟩
    rw [reached.coherent.1.same] at held
    exact SortedMap.not_contains_iff.mpr reached.next_free held

/-! ## All the way round -/

def resident : Registration := ⟨"w1", "localhost", 2000, "", [], [], [], none⟩

def passing : Registration := ⟨"w2", "localhost", 1000, "", [], [], [], none⟩

/-- So often a component comes and goes, from the index 2 on. -/
def rounds : Nat → List Operation
  | 0 => []
  | n + 1 => rounds n ++ [.register passing, .deregister (.ofNat (n + 2))]

def afterRounds (n : Nat) : Discoverer :=
  machine.run (new .standard ⟨0, 0⟩) (.register resident :: rounds n)

/-- The resident is the only component, and after it so many others have come and gone. -/
structure Alone (n : Nat) (d : Discoverer) : Prop where
  coherent : d.Coherent
  stays : d.directory.get? 1 = some (resident.component 1)
  only : ∀ {i}, d.directory.contains i = true → i = 1
  next : d.directory.nextIndex = .ofNat (n + 2)

theorem Alone.passing_free {n : Nat} (alone : d.Alone n) : ¬ d.directory.ids.contains passing.id = true := by
  intro taken
  rcases SortedMap.contains_iff.mp taken with ⟨i, led⟩
  rcases alone.coherent.directory.ids.mp led with ⟨c, known, idOf⟩
  have here := alone.only (SortedMap.contains_iff.mpr ⟨c, known⟩)
  subst here
  have same : c = resident.component 1 := Option.some.inj (known.symm.trans alone.stays)
  subst same
  exact absurd idOf (by decide)

/-- A component comes and goes beside the resident, and the next index is one further. -/
theorem Alone.round {n : Nat} (alone : d.Alone n) (few : n < indexLimit) :
    (machine.run d [.register passing, .deregister (.ofNat (n + 2))]).Alone (n + 1) := by
  -- the next index is not yet that of the resident again
  have other : d.directory.nextIndex ≠ 1 := by
    rw [alone.next, ne_eq, ← UInt32.toNat_inj, UInt32.toNat_ofNat']
    simp only [indexLimit] at few
    show ¬ (n + 2) % 4294967296 = 1
    omega
  have free : d.directory.components.get? d.directory.nextIndex = none :=
    SortedMap.not_contains_iff.mp fun known => other (alone.only known)
  show ((d.register passing).2.deregister (.ofNat (n + 2))).2.Alone (n + 1)
  rw [deregister_state, ← alone.next]
  have coherent : ((d.register passing).2.without d.directory.nextIndex).Coherent :=
    (alone.coherent.register free passing).without
  rcases register_cases alone.coherent free passing with ⟨taken, -⟩ | ⟨directory, lease, done, -, granted⟩
  · exact absurd taken alone.passing_free
  · refine ⟨coherent, ?_, ?_, ?_⟩
    all_goals rw [granted]
    · rcases Directory.insert_ok done with ⟨-, -, rfl⟩
      refine (Directory.get?_remove _).trans ((if_neg other).trans ?_)
      exact (SortedMap.get?_insert ..).trans ((if_neg other).trans alone.stays)
    · intro i known
      obtain ⟨differ, inserted⟩ := Directory.contains_remove.mp known
      exact alone.only (((Directory.contains_of_insert done).mp inserted).resolve_left differ)
    · rcases Directory.insert_ok done with ⟨-, -, rfl⟩
      show (Directory.remove _ _).2.nextIndex = _
      rw [Directory.nextIndex_remove]
      show d.directory.nextIndex + 1 = _
      rw [alone.next]
      exact (UInt32.ofNat_add (n + 2) 1).symm

theorem alone_resident : ((new .standard ⟨0, 0⟩).step (.register resident)).Alone 0 where
  coherent := (coherent_new _ _).register rfl resident
  stays := by decide
  only := by
    intro i known
    have inserted : (Directory.new.insert resident) = .ok (1, _) := rfl
    exact (((Directory.contains_of_insert inserted).mp known).resolve_right (nofun)).symm
  next := by decide

/-- So it goes on until all other indexes have been used. -/
theorem alone_afterRounds {n : Nat} (few : n ≤ indexLimit) : (afterRounds n).Alone n := by
  induction n with
  | zero => exact alone_resident
  | succ n ih =>
    rw [afterRounds, rounds, ← List.cons_append, Machine.run_append]
    exact (ih (Nat.le_of_succ_le few)).round few

/-- While a component stays, another one comes and goes under each of the other indexes. The next registration is
given the index of the one that stays, which disappears from the directory, but not its lease. -/
theorem resident_overwritten :
    (afterRounds indexLimit).directory.get? 1 = some (resident.component 1) ∧
      (afterRounds indexLimit).leases.contains 1 = true ∧
      ((afterRounds indexLimit).register passing).1 = .error (.lease (.alreadyHeld 1)) ∧
      ((afterRounds indexLimit).register passing).2.directory.get? 1 = none ∧
      ((afterRounds indexLimit).register passing).2.leases.contains 1 = true ∧
      ¬ (afterRounds indexLimit).DisturbsNone passing := by
  have alone : (afterRounds indexLimit).Alone indexLimit := alone_afterRounds (Nat.le_refl _)
  have next : (afterRounds indexLimit).directory.nextIndex = 1 := alone.next.trans (by decide)
  have held : (afterRounds indexLimit).leases.contains 1 = true :=
    alone.coherent.same.mpr (SortedMap.contains_iff.mpr ⟨_, alone.stays⟩)
  have back : (afterRounds indexLimit).TakenBack passing := by
    refine takenBack_of_collides ⟨alone.passing_free, ?_⟩
    rw [next]
    exact held
  refine ⟨alone.stays, held, ?_, ?_, ?_, back.disturbs⟩
  · rw [back.refused, next]
  · rw [← next]
    exact back.gone
  · rw [back.leases]
    exact held

end Discoverer

end Discovery
