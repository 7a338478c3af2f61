import Discovery.Proofs.Service.Handled

/-!
# A lease and the messages behind it

What a component tells the discoverer is its registration and then its heartbeats. The lease that it has at any
time is determined by those of them that were accepted, and by the clock as it stood at each: nothing that
is said of other components, that is refused, or that sweeps and reports bring about leaves a trace in it.

* `History.lease`: the lease that a registration and the heartbeats after it add up to;
* `get?_of_not_accepts`, `get?_of_registration`, `get?_of_heartbeat`: what one operation does to one lease;
* `Told.step`: if every component has the lease of its history, then so it has after any operation;
* `lease_of_history`: by induction, after every run.
-/

namespace Discovery

namespace Discoverer

variable {d : Discoverer} {index : ComponentIndex} {n : Nat} {op : Operation} {ops : List Operation}

/-! ## Histories -/

/-- The accepted messages of one component, each with what the clock showed. -/
structure History where
  registered : Instant
  registration : Registration
  /-- The heartbeats since, in order. -/
  renewals : List (Instant × Heartbeat)

namespace History

def operations (history : History) : List (Instant × Operation) :=
  (history.registered, .register history.registration) ::
    history.renewals.map fun renewal => (renewal.1, .heartbeat renewal.2)

def lastTime (history : History) : Instant :=
  (history.renewals.map (·.1)).getLast?.getD history.registered

/-- The number of slots named by the last heartbeat that named one, else by the registration, else the
default. -/
def slots (settings : LeaseSettings) (history : History) : UInt32 :=
  (history.renewals.filterMap (·.2.slots)).getLast?.getD
    (history.registration.slots.getD settings.defaultSlots)

/-- The lease that the messages add up to. -/
def lease (settings : LeaseSettings) (index : ComponentIndex) (history : History) : Lease :=
  ⟨index, some history.lastTime, history.slots settings⟩

def renew (history : History) (now : Instant) (h : Heartbeat) : History :=
  { history with renewals := history.renewals ++ [(now, h)] }

theorem operations_renew (history : History) (now : Instant) (h : Heartbeat) :
    (history.renew now h).operations = history.operations ++ [(now, .heartbeat h)] := by
  rw [operations, renew, List.map_append]
  rfl

/-- A history is told by the operations that carried it. -/
theorem operations_injective : Function.Injective operations := by
  rintro ⟨registered, registration, renewals⟩ ⟨registered', registration', renewals'⟩ same
  rcases List.cons.inj same with ⟨first, rest⟩
  cases first
  have later : renewals = renewals' := by
    refine List.map_injective_iff.mpr ?_ rest
    rintro ⟨now, h⟩ ⟨now', h'⟩ same
    cases same
    rfl
  rw [later]

/-- A heartbeat begins the lease anew, and keeps the number of slots unless it names another. -/
theorem lease_renew (settings : LeaseSettings) (history : History) (now : Instant) (h : Heartbeat) :
    (history.renew now h).lease settings index =
      ⟨index, some now, h.slots.getD (history.lease settings index).slots⟩ := by
  have time : (history.renew now h).lastTime = now := by simp [lastTime, renew]
  have named : (history.renew now h).slots settings = h.slots.getD (history.slots settings) := by
    rw [slots, renew, List.filterMap_append]
    cases asked : h.slots with
    | none => simp [asked, slots]
    | some slots => simp [asked]
  rw [lease, time, named]
  rfl

end History

/-- Does the operation carry a message of the component that is accepted: the registration that brings it in, or
a heartbeat that renews its lease? -/
def accepts (d : Discoverer) (index : ComponentIndex) (op : Operation) : Bool :=
  match op with
  | .register _ => d.granted? op = some index
  | .heartbeat h => h.index = index ∧ (d.heartbeat h).1.isOk = true
  | _ => false

/-- The operation as an entry of the component's history, if it carries an accepted message. -/
def entry (d : Discoverer) (index : ComponentIndex) (op : Operation) : List (Instant × Operation) :=
  if d.accepts index op then [(d.now, op)] else []

/-- The operations of a run that carried accepted messages of the component, each with what the clock
showed. -/
def accepted (index : ComponentIndex) : Discoverer → List Operation → List (Instant × Operation)
  | _, [] => []
  | d, op :: ops => d.entry index op ++ accepted index (d.step op) ops

theorem accepted_concat (d : Discoverer) (ops : List Operation) (op : Operation) :
    accepted index d (ops ++ [op]) = accepted index d ops ++ (machine.run d ops).entry index op := by
  induction ops generalizing d with
  | nil => exact List.append_nil _
  | cons first ops ih =>
    rw [List.cons_append, accepted, accepted, ih, List.append_assoc]
    rfl

/-! ## One operation -/

/-- A heartbeat is granted if the component is there. -/
theorem Coherent.heartbeat_isOk_iff (coherent : d.Coherent) {h : Heartbeat} :
    (d.heartbeat h).1.isOk = true ↔ d.directory.contains h.index = true := by
  rw [← coherent.same]
  rcases heartbeat_cases d h with ⟨unleased, refused⟩ | ⟨old, lease, held, -, granted⟩
  · rw [refused]
    exact iff_of_false Bool.false_ne_true (SortedMap.not_contains_iff.mpr unleased)
  · rw [granted]
    exact iff_of_true rfl (SortedMap.contains_iff.mpr ⟨old, held⟩)

/-- What is left has the lease that it had. -/
theorem Shrinks.get?_of_left {gone : ComponentIndex → Bool} {d' : Discoverer}
    (shrinks : Shrinks gone d d') (left : d'.directory.contains index = true) :
    d'.leases.get? index = d.leases.get? index := by
  rw [shrinks.leases, if_neg (shrinks.contains_iff.mp left).2]

/-- Unless it carries an accepted message of the component, an operation leaves the component's lease as it
is or takes the component out. -/
theorem Coherent.get?_of_not_accepts (coherent : d.Coherent)
    (free : d.directory.components.get? d.directory.nextIndex = none)
    (other : ¬ d.accepts index op = true) (left : (d.step op).directory.contains index = true) :
    (d.step op).leases.get? index = d.leases.get? index := by
  -- an accepted message of another component stores a lease under another index
  cases op with
  | register r =>
    rw [step]
    rcases register_cases coherent free r with
      ⟨-, refused⟩ | ⟨directory, lease, done, rfl, granted⟩
    · rw [refused]
    · have differs : d.directory.nextIndex ≠ index := by
        rintro rfl
        exact other (decide_eq_true (by rw [granted?, granted]; rfl))
      rw [granted, LeaseRegistry.get?_store]
      exact if_neg differs
  | heartbeat h =>
    rw [step]
    rcases heartbeat_cases d h with ⟨-, refused⟩ | ⟨old, lease, held, rfl, granted⟩
    · rw [refused]
    · have differs : h.index ≠ index := by
        intro same
        exact other (decide_eq_true ⟨same, by rw [granted]; rfl⟩)
      rw [granted, LeaseRegistry.get?_store]
      exact if_neg differs
  | deregister i =>
    rw [step, deregister_state] at left ⊢
    exact coherent.without_shrinks.get?_of_left left
  | notify reported => exact (coherent.evictAll_shrinks d.now reported).get?_of_left left
  | sweep => exact coherent.sweep_shrinks.get?_of_left left
  | setClock now => rfl

/-- A registration that is accepted brings in the next index, with a lease of its own. -/
theorem Coherent.get?_of_registration (coherent : d.Coherent)
    (free : d.directory.components.get? d.directory.nextIndex = none) {r : Registration}
    (accepts : d.accepts index (.register r) = true) :
    index = d.directory.nextIndex ∧ (d.step (.register r)).leases.get? index =
      some (History.lease d.settings index ⟨d.now, r, []⟩) := by
  have granted : d.granted? (.register r) = some index := of_decide_eq_true accepts
  rcases granted?_eq_some coherent free granted with ⟨rfl, admitted⟩
  refine ⟨rfl, ?_⟩
  rw [step]
  rcases register_cases coherent free r with ⟨-, refused⟩ | ⟨directory, lease, -, rfl, entered⟩
  · rw [admits, refused] at admitted
    cases admitted
  · rw [entered, LeaseRegistry.get?_store]
    exact if_pos rfl

/-- A heartbeat that is accepted renews the lease that the component has. -/
theorem Coherent.get?_of_heartbeat (coherent : d.Coherent) {h : Heartbeat}
    (accepts : d.accepts index (.heartbeat h) = true) :
    d.directory.contains index = true ∧ ∀ old, d.leases.get? index = some old →
      (d.step (.heartbeat h)).leases.get? index = some ⟨index, some d.now, h.slots.getD old.slots⟩ := by
  obtain ⟨rfl, success⟩ : h.index = index ∧ (d.heartbeat h).1.isOk = true := of_decide_eq_true accepts
  refine ⟨coherent.heartbeat_isOk_iff.mp success, ?_⟩
  intro old held
  rw [step]
  rcases heartbeat_cases d h with ⟨-, refused⟩ | ⟨old', lease, held', rfl, granted⟩
  · rw [refused] at success
    cases success
  · rw [held] at held'
    cases held'
    rw [granted, LeaseRegistry.get?_store]
    exact if_pos rfl

/-- The component of an accepted message is there after it. -/
theorem Coherent.contains_of_accepts (coherent : d.Coherent)
    (free : d.directory.components.get? d.directory.nextIndex = none)
    (accepts : d.accepts index op = true) (few : n + (d.admits op).toNat < indexLimit)
    (counted : d.directory.Counted n) : (d.step op).directory.contains index = true := by
  have coherentAfter := (step_coherent few ⟨coherent, counted⟩).1
  rw [← coherentAfter.same]
  cases op with
  | register r =>
    exact SortedMap.contains_iff.mpr ⟨_, (coherent.get?_of_registration free accepts).2⟩
  | heartbeat h =>
    rcases coherent.get?_of_heartbeat accepts with ⟨known, renewed⟩
    rcases SortedMap.contains_iff.mp (coherent.same.mpr known) with ⟨old, held⟩
    exact SortedMap.contains_iff.mpr ⟨_, renewed old held⟩
  | deregister | notify | sweep | setClock => cases accepts

/-- Unless it carries an accepted message of the component, an operation does not bring the component
in. -/
theorem Coherent.contains_of_not_accepts (coherent : d.Coherent)
    (free : d.directory.components.get? d.directory.nextIndex = none)
    (other : ¬ d.accepts index op = true) (known : (d.step op).directory.contains index = true) :
    d.directory.contains index = true := by
  rcases SortedMap.contains_iff.mp known with ⟨c, holds⟩
  rcases get?_of_step coherent free holds with before | ⟨rfl, r, rfl, rfl⟩
  · exact SortedMap.contains_iff.mpr ⟨c, before⟩
  · rw [step] at known
    rcases register_cases coherent free r with ⟨-, refused⟩ | ⟨directory, lease, -, rfl, granted⟩
    · rw [refused] at known
      exact known
    · exact absurd (decide_eq_true (by rw [granted?, granted]; rfl)) other

/-! ## Runs -/

/-- By these histories: every component has the lease of its history, and no index above those handed out
has one. -/
structure Told (past : ComponentIndex → List (Instant × Operation)) (d : Discoverer) : Prop where
  lease : ∀ i, d.directory.contains i = true → ∃ history : History,
    past i = history.operations ∧ d.leases.get? i = some (history.lease d.settings i)
  below : ∀ i, past i ≠ [] → i < d.directory.nextIndex

theorem told_new (settings : LeaseSettings) (now : Instant) :
    Told (fun _ => []) (new settings now) where
  lease i known := by cases known
  below i told := absurd rfl told

/-- Every operation adds to the histories what it carries, and to the leases accordingly. -/
theorem Told.step {past : ComponentIndex → List (Instant × Operation)} (told : Told past d)
    (few : n + (d.admits op).toNat < indexLimit) (inv : d.Coherent ∧ d.directory.Counted n) :
    Told (fun i => past i ++ d.entry i op) (d.step op) where
  lease i known := by
    have free := inv.2.next_free
    rw [(d.step_frame op).1, entry]
    by_cases accepts : d.accepts i op = true
    · rw [if_pos accepts]
      cases op with
      | register r =>
        rcases inv.1.get?_of_registration free accepts with ⟨next, granted⟩
        -- the next index has not been handed out, so that there is nothing before the registration
        have nothing : past i = [] := by
          refine Decidable.byContradiction fun something => ?_
          have below := told.below i something
          rw [next] at below
          exact UInt32.lt_irrefl _ below
        exact ⟨⟨d.now, r, []⟩, by rw [nothing]; rfl, granted⟩
      | heartbeat h =>
        rcases inv.1.get?_of_heartbeat accepts with ⟨knownBefore, renewed⟩
        rcases told.lease i knownBefore with ⟨history, operations, held⟩
        refine ⟨history.renew d.now h, ?_, ?_⟩
        · rw [operations, History.operations_renew]
        · rw [renewed _ held, History.lease_renew]
      | deregister | notify | sweep | setClock => cases accepts
    · rw [if_neg accepts, List.append_nil, inv.1.get?_of_not_accepts free accepts known]
      exact told.lease i (inv.1.contains_of_not_accepts free accepts known)
  below i something := by
    have countedAfter := (step_coherent few inv).2
    by_cases accepts : d.accepts i op = true
    · exact countedAfter.below (inv.1.contains_of_accepts inv.2.next_free accepts few inv.2)
    · rw [entry, if_neg accepts, List.append_nil] at something
      exact lt_nextIndex_of_counted inv.2 countedAfter (Nat.le_add_right ..)
        (told.below i something)

/-- The histories of a run are told by its end. -/
theorem told_run {settings : LeaseSettings} {now : Instant}
    (few : machine.admissions (new settings now) ops < indexLimit) :
    Told (fun i => accepted i (new settings now) ops) (machine.run (new settings now) ops) ∧
      (machine.run (new settings now) ops).settings = settings := by
  -- the last operation of the run is taken off, as histories grow at their ends
  induction ops using List.reverseRecOn with
  | nil => exact ⟨told_new settings now, rfl⟩
  | append_singleton ops op ih =>
    rw [Machine.admissions_append] at few
    have fewBefore : machine.admissions (new settings now) ops < indexLimit := by omega
    have fewNow : machine.admissions (new settings now) ops +
        ((machine.run (new settings now) ops).admits op).toNat < indexLimit := few
    have inv := run_new_coherent fewBefore
    rcases ih fewBefore with ⟨told, same⟩
    rw [Machine.run_append]
    constructor
    · simp only [accepted_concat]
      exact told.step fewNow inv
    · exact (Discoverer.step_frame _ op).1.trans same

/-- After every run, whatever it did: the accepted messages of a component that is there are one registration and
heartbeats after it, and its lease is what these add up to. It begins when the last of them was accepted,
and has the slots that the last heartbeat named which named any, else those of the registration, else the
default. A heartbeat is granted if and only if its component is there. An operation that carries no
accepted message of the component leaves the lease as it is while the component is there, and a search
leaves everything. -/
theorem lease_of_history {settings : LeaseSettings} {now : Instant}
    (few : machine.admissions (new settings now) ops < indexLimit) :
    (∀ i, (machine.run (new settings now) ops).directory.contains i = true →
      ∃ history : History, accepted i (new settings now) ops = history.operations ∧
        (machine.run (new settings now) ops).leases.get? i = some (history.lease settings i)) ∧
      (∀ h, ((machine.run (new settings now) ops).heartbeat h).1.isOk = true ↔
        (machine.run (new settings now) ops).directory.contains h.index = true) ∧
      (∀ i op, ¬ (machine.run (new settings now) ops).accepts i op = true →
        ((machine.run (new settings now) ops).step op).directory.contains i = true →
        ((machine.run (new settings now) ops).step op).leases.get? i =
          (machine.run (new settings now) ops).leases.get? i) ∧
      ∀ text, ((machine.run (new settings now) ops).answer .query text).2 =
        machine.run (new settings now) ops := by
  rcases run_new_coherent few with ⟨coherent, counted⟩
  rcases told_run few with ⟨told, same⟩
  refine ⟨?_, fun h => coherent.heartbeat_isOk_iff, ?_, answer_query_state _⟩
  · intro i known
    have leased := told.lease i known
    rw [same] at leased
    exact leased
  · intro i op other left
    exact coherent.get?_of_not_accepts counted.next_free other left

/-- A component names a number of slots, then renews without one; meanwhile its neighbour registers and renews, a
heartbeat for nobody is refused, and a late report names both. -/
def neighbours : List Operation :=
  [.register ⟨"w1", "localhost", 2000, "", [], [], [], none⟩,
    .setClock ⟨10, 0⟩, .heartbeat ⟨1, some 5⟩,
    .register ⟨"w2", "localhost", 1000, "", [], [], [], some 9⟩,
    .setClock ⟨70, 0⟩, .heartbeat ⟨1, none⟩, .setClock ⟨80, 0⟩, .heartbeat ⟨2, some 1⟩,
    .heartbeat ⟨3, some 4⟩, .notify [2, 1, 1], .sweep]

theorem lease_of_history_neighbours :
    accepted 1 (new .standard ⟨0, 0⟩) neighbours =
        [(⟨0, 0⟩, .register ⟨"w1", "localhost", 2000, "", [], [], [], none⟩),
          (⟨10, 0⟩, .heartbeat ⟨1, some 5⟩), (⟨70, 0⟩, .heartbeat ⟨1, none⟩)] ∧
      (machine.run (new .standard ⟨0, 0⟩) neighbours).leases.get? 1 = some ⟨1, some ⟨70, 0⟩, 5⟩ ∧
      ((machine.run (new .standard ⟨0, 0⟩) neighbours).step (.heartbeat ⟨2, none⟩)).leases.get? 1 =
        some ⟨1, some ⟨70, 0⟩, 5⟩ := by
  have few : machine.admissions (new .standard ⟨0, 0⟩) neighbours < indexLimit :=
    Nat.lt_of_le_of_lt (machine.admissions_le _ _) (by decide)
  have known : (machine.run (new .standard ⟨0, 0⟩) neighbours).directory.contains 1 = true := by
    decide +kernel
  have operations : accepted 1 (new .standard ⟨0, 0⟩) neighbours = History.operations
      ⟨⟨0, 0⟩, ⟨"w1", "localhost", 2000, "", [], [], [], none⟩,
        [(⟨10, 0⟩, ⟨1, some 5⟩), (⟨70, 0⟩, ⟨1, none⟩)]⟩ := by decide +kernel
  obtain ⟨leases, -, unchanged, -⟩ := lease_of_history few
  obtain ⟨history, told, held⟩ := leases 1 known
  rw [operations] at told
  cases History.operations_injective told
  refine ⟨operations, held, ?_⟩
  rw [unchanged 1 (.heartbeat ⟨2, none⟩) (by decide +kernel) (by decide +kernel)]
  exact held

end Discoverer

end Discovery
