import Discovery.Proofs.Query.Agreement
import Discovery.Proofs.Registry.Eviction

/-!
# Gone is gone

The counter of the indexes only grows, and every index that was handed out lies below it. So an index
that is below the counter and belongs to no component is `Retired`: no operation hands it out again.

* `Coherent.absent`: a component that is not in the directory is nowhere, and requests for it fail;
* `get?_of_step`: nothing but a registration brings a component in;
* `Retired.step`, `Retired.run`: retirement survives every operation, and by induction every run;
* `handedOut_below`: the counter is past all the indexes that a run handed out;
* `gone_for_good`: what was deregistered or evicted during a run stays away.
-/

namespace Discovery

namespace Discoverer

variable {d : Discoverer} {index : ComponentIndex} {n : Nat} {op : Operation}
  {ops : List Operation}

/-! ## Components that are not there -/

/-- Without a component there is nothing to remove. -/
theorem Coherent.without_eq_self (coherent : d.Coherent)
    (unknown : ¬ d.directory.contains index = true) : d.without index = d := by
  have noComponent : d.directory.components.get? index = none :=
    SortedMap.not_contains_iff.mp unknown
  have noLease : d.leases.get? index = none :=
    SortedMap.not_contains_iff.mp fun held => unknown (coherent.same.mp held)
  unfold Discoverer.without Directory.remove LeaseRegistry.remove LeaseRegistry.removeIf
  rw [noComponent, noLease]

/-- A deregistration answers the component, if there is one. -/
theorem fst_deregister (d : Discoverer) (index : ComponentIndex) :
    (d.deregister index).1 =
      (d.directory.get? index).elim (.error (.unknownComponent index)) .ok := by
  have removed : (d.directory.remove index).1 = d.directory.get? index := Directory.fst_remove
  unfold deregister
  split
  next found directory split =>
    rw [split] at removed
    rw [← removed]
    cases found <;> rfl

theorem deregister_known (known : d.directory.contains index = true) :
    ∃ component, (d.deregister index).1 = .ok component := by
  rcases SortedMap.contains_iff.mp known with ⟨component, held⟩
  refine ⟨component, ?_⟩
  rw [fst_deregister, Directory.get?, held]
  rfl

/-- Without a component a deregistration is refused, and there is nothing for it to remove. -/
theorem Coherent.deregister_unknown (coherent : d.Coherent)
    (unknown : ¬ d.directory.contains index = true) :
    d.deregister index = (.error (.unknownComponent index), d) := by
  have answer : (d.deregister index).1 = .error (.unknownComponent index) := by
    rw [fst_deregister, Directory.get?, SortedMap.not_contains_iff.mp unknown]
    rfl
  have state : (d.deregister index).2 = d := by
    rw [deregister_state, coherent.without_eq_self unknown]
  exact Prod.ext answer state

/-- No record holds the index, no answer names it, and requests for it are refused. -/
structure Absent (d : Discoverer) (index : ComponentIndex) : Prop where
  component : d.directory.get? index = none
  tables : ∀ f v, ¬ d.directory.tables.lists f v index = true
  ids : ∀ id, d.directory.indexOf? id ≠ some index
  lease : d.leases.get? index = none
  snapshot : ∀ lease ∈ d.leases.snapshot, lease.index ≠ index
  listing : ∀ status ∈ d.leaseStatuses, status.index ≠ index
  search : ∀ q, ∀ found ∈ (d.query q).found, found.index ≠ index
  sweep : index ∉ d.sweep.1
  heartbeat : ∀ slots,
    d.heartbeat ⟨index, slots⟩ = (.error (.lease (.notFound index)), d)
  deregister : d.deregister index = (.error (.unknownComponent index), d)

/-- What is not in the directory of a coherent discoverer is absent from all of it. -/
theorem Coherent.absent (coherent : d.Coherent) (unknown : ¬ d.directory.contains index = true) :
    d.Absent index := by
  -- every record follows from the table of components
  have noComponent : d.directory.components.get? index = none :=
    SortedMap.not_contains_iff.mp unknown
  have notHeld : ¬ d.leases.contains index = true := fun held => unknown (coherent.same.mp held)
  have noLease : d.leases.get? index = none := SortedMap.not_contains_iff.mp notHeld
  constructor
  case component => exact noComponent
  case tables =>
    intro f v listed
    rcases coherent.directory.listed.mp listed with ⟨c, known, -⟩
    rw [noComponent] at known
    cases known
  case ids =>
    intro id led
    rcases coherent.directory.ids.mp led with ⟨c, known, -⟩
    rw [noComponent] at known
    cases known
  case lease => exact noLease
  case snapshot =>
    rintro lease mem rfl
    rw [coherent.leases.mem_snapshot_iff, noLease] at mem
    cases mem
  case listing =>
    intro status mem here
    exact notHeld (coherent.listed_iff.mp ⟨status, mem, here⟩)
  case search =>
    rintro q found mem rfl
    have holds := (coherent.mem_found_iff.mp mem).1
    have nobody : d.directory.get? found.index = none := noComponent
    rw [matches?, nobody] at holds
    cases holds
  case sweep =>
    rw [coherent.sweep_eq]
    intro mem
    exact unknown (SortedMap.mem_keys_iff.mp mem)
  case heartbeat =>
    intro slots
    rcases heartbeat_cases d ⟨index, slots⟩ with ⟨-, refused⟩ | ⟨old, lease, held, -, -⟩
    · exact refused
    · rw [noLease] at held
      cases held
  case deregister => exact coherent.deregister_unknown unknown

/-! ## Retired indexes -/

theorem run_coherent (few : n + machine.admissions d ops < indexLimit)
    (inv : d.Coherent ∧ d.directory.Counted n) :
    (machine.run d ops).Coherent ∧
      (machine.run d ops).directory.Counted (n + machine.admissions d ops) := by
  have hstep : ∀ m (s : Discoverer) op, m + (machine.admits s op).toNat < indexLimit →
      s.Coherent ∧ s.directory.Counted m →
      (machine.step s op).Coherent ∧
        (machine.step s op).directory.Counted (m + (machine.admits s op).toNat) := by
    intro m s op few inv
    exact step_coherent few inv
  exact Machine.run_invariant hstep few inv

theorem run_new_coherent {settings : LeaseSettings} {now : Instant}
    (few : machine.admissions (new settings now) ops < indexLimit) :
    (machine.run (new settings now) ops).Coherent ∧
      (machine.run (new settings now) ops).directory.Counted
        (machine.admissions (new settings now) ops) := by
  rw [← Nat.zero_add (machine.admissions _ _)] at few ⊢
  exact run_coherent few ⟨coherent_new settings now, Directory.counted_new⟩

/-- The next index grows with the number of components that were entered. -/
theorem lt_nextIndex_of_counted {m : Nat} {d' : Discoverer} (counted : d.directory.Counted n)
    (countedLater : d'.directory.Counted m) (grows : n ≤ m)
    (below : index < d.directory.nextIndex) : index < d'.directory.nextIndex := by
  rw [UInt32.lt_iff_toNat_lt] at below ⊢
  rw [counted.next] at below
  rw [countedLater.next]
  omega

/-- After an operation the directory holds what it held, and the component that was just entered. -/
theorem get?_of_step (coherent : d.Coherent)
    (free : d.directory.components.get? d.directory.nextIndex = none) {c : Component}
    (known : (d.step op).directory.get? index = some c) :
    d.directory.get? index = some c ∨
      index = d.directory.nextIndex ∧ ∃ r, op = .register r ∧ c = r.component index := by
  -- only a registration brings a component in; everything else leaves the description as it is
  cases op with
  | register r =>
    rw [step] at known
    rcases register_cases coherent free r with
      ⟨-, refused⟩ | ⟨directory, lease, done, -, granted⟩
    · rw [refused] at known
      exact .inl known
    · rw [granted] at known
      rcases Directory.insert_ok done with ⟨-, -, rfl⟩
      rw [Directory.get?, SortedMap.get?_insert] at known
      split at known
      · next here =>
        cases known
        subst here
        exact .inr ⟨rfl, r, rfl, rfl⟩
      · exact .inl known
  | heartbeat h =>
    rw [step] at known
    rcases heartbeat_cases d h with ⟨-, refused⟩ | ⟨old, lease, -, -, granted⟩
    · rw [refused] at known
      exact .inl known
    · rw [granted] at known
      exact .inl known
  | deregister i =>
    rw [step, deregister_state] at known
    exact .inl (coherent.without_shrinks.get?_of_get? known)
  | notify reported =>
    exact .inl ((coherent.evictAll_shrinks d.now reported).get?_of_get? known)
  | sweep => exact .inl (coherent.sweep_shrinks.get?_of_get? known)
  | setClock now => exact .inl known

/-- The index was handed out, and its component is gone. -/
structure Retired (index : ComponentIndex) (d : Discoverer) : Prop where
  handedOut : index < d.directory.nextIndex
  unknown : ¬ d.directory.contains index = true

/-- No operation brings a retired index back. -/
theorem Retired.step (retired : Retired index d) (few : n + (d.admits op).toNat < indexLimit)
    (inv : d.Coherent ∧ d.directory.Counted n) : Retired index (d.step op) := by
  have counted := (step_coherent few inv).2
  constructor
  · exact lt_nextIndex_of_counted inv.2 counted (Nat.le_add_right ..) retired.handedOut
  · intro known
    rcases SortedMap.contains_iff.mp known with ⟨c, holds⟩
    rcases get?_of_step inv.1 inv.2.next_free holds with before | ⟨next, -⟩
    · exact retired.unknown (SortedMap.contains_iff.mpr ⟨c, before⟩)
    · -- a registration takes the next index, which lies above
      rw [next] at retired
      exact UInt32.lt_irrefl _ retired.handedOut

theorem Retired.run (retired : Retired index d) (few : n + machine.admissions d ops < indexLimit)
    (inv : d.Coherent ∧ d.directory.Counted n) : Retired index (machine.run d ops) := by
  have together : ∀ m (s : Discoverer) op, m + (machine.admits s op).toNat < indexLimit →
      (s.Coherent ∧ s.directory.Counted m) ∧ Retired index s →
      ((machine.step s op).Coherent ∧
        (machine.step s op).directory.Counted (m + (machine.admits s op).toNat)) ∧
        Retired index (machine.step s op) := by
    intro m s op few both
    exact ⟨step_coherent few both.1, both.2.step few both.1⟩
  exact (Machine.run_invariant together few ⟨inv, retired⟩).2

/-! ## Indexes that were handed out -/

/-- The index that an operation hands out, if it enters a component. -/
def granted? (d : Discoverer) : Operation → Option ComponentIndex
  | .register r => (d.register r).1.toOption.map (·.index)
  | _ => none

def handedOut : Discoverer → List Operation → List ComponentIndex
  | _, [] => []
  | d, op :: ops => (d.granted? op).toList ++ handedOut (d.step op) ops

/-- What is handed out is the next index. -/
theorem granted?_eq_some (coherent : d.Coherent)
    (free : d.directory.components.get? d.directory.nextIndex = none)
    (granted : d.granted? op = some index) :
    index = d.directory.nextIndex ∧ d.admits op = true := by
  cases op with
  | register r =>
    rw [granted?] at granted
    rw [admits]
    rcases register_cases coherent free r with
      ⟨-, refused⟩ | ⟨directory, lease, -, rfl, entered⟩
    · rw [refused] at granted
      cases granted
    · rw [entered] at granted ⊢
      cases granted
      exact ⟨rfl, rfl⟩
  | heartbeat | deregister | notify | sweep | setClock => cases granted

/-- After a run the next index is past all that the run handed out. -/
theorem handedOut_below (few : n + machine.admissions d ops < indexLimit)
    (inv : d.Coherent ∧ d.directory.Counted n) :
    ∀ i ∈ handedOut d ops, i < (machine.run d ops).directory.nextIndex := by
  induction ops generalizing d n with
  | nil =>
    intro i mem
    cases mem
  | cons op ops ih =>
    intro i mem
    have counted := (run_coherent few inv).2
    have fewNow : n + (d.admits op).toNat + machine.admissions (d.step op) ops < indexLimit := by
      rw [Nat.add_assoc]
      exact few
    rcases List.mem_append.mp mem with now | later
    · rcases granted?_eq_some inv.1 inv.2.next_free (Option.mem_toList.mp now) with
        ⟨rfl, admitted⟩
      -- the operation that hands it out is counted
      have atLeastOne : 1 ≤ machine.admissions d (op :: ops) := by
        have here : (machine.admits d op).toNat = 1 := by
          show (d.admits op).toNat = 1
          rw [admitted]
          rfl
        rw [Machine.admissions, here]
        omega
      rw [UInt32.lt_iff_toNat_lt, counted.next, inv.2.next]
      omega
    · exact ih fewNow (step_coherent (by omega) inv) i later

/-! ## Taken out for good -/

/-- Does the operation take a component out? It is deregistered with success, or is there before and
not any more. -/
def TakesOut (d : Discoverer) (index : ComponentIndex) : Operation → Prop
  | .deregister i => i = index ∧ ∃ component, (d.deregister i).1 = .ok component
  | op => d.directory.contains index = true ∧ ¬ (d.step op).directory.contains index = true

theorem TakesOut.known (takesOut : d.TakesOut index op) (coherent : d.Coherent) :
    d.directory.contains index = true ∧ ¬ (d.step op).directory.contains index = true := by
  cases op with
  | deregister i =>
    rcases takesOut with ⟨rfl, component, answer⟩
    constructor
    · refine Decidable.byContradiction fun unknown => ?_
      rw [coherent.deregister_unknown unknown] at answer
      cases answer
    · rw [step, deregister_state]
      intro still
      exact (Directory.contains_remove.mp still).1 rfl
  | register | heartbeat | notify | sweep | setClock => exact takesOut

/-- From the operation that takes it out on, a component is retired. -/
theorem TakesOut.retired (takesOut : d.TakesOut index op)
    (few : n + (d.admits op).toNat < indexLimit) (inv : d.Coherent ∧ d.directory.Counted n) :
    Retired index (d.step op) := by
  rcases takesOut.known inv.1 with ⟨known, unknown⟩
  have counted := (step_coherent few inv).2
  refine ⟨?_, unknown⟩
  exact lt_nextIndex_of_counted inv.2 counted (Nat.le_add_right ..) (inv.2.below known)

theorem TakesOut.retired_run (takesOut : d.TakesOut index op)
    (few : n + machine.admissions d (op :: ops) < indexLimit)
    (inv : d.Coherent ∧ d.directory.Counted n) : Retired index (machine.run d (op :: ops)) := by
  have fewLater : n + (d.admits op).toNat + machine.admissions (d.step op) ops < indexLimit := by
    rw [Nat.add_assoc]
    exact few
  have fewNow : n + (d.admits op).toNat < indexLimit := by omega
  exact (takesOut.retired fewNow inv).run fewLater (step_coherent fewNow inv)

/-- Whatever a run does before and after an operation that takes a component out: at the end, and so
at every point after that operation, the index of the component is absent, and a registration that is
granted, of whatever id, gets an index above it and above all indexes that the run handed out. -/
theorem gone_for_good {settings : LeaseSettings} {now : Instant} {before after : List Operation}
    (few : machine.admissions (new settings now) (before ++ op :: after) < indexLimit)
    (takesOut : (machine.run (new settings now) before).TakesOut index op) :
    (machine.run (new settings now) (before ++ op :: after)).Absent index ∧
      ∀ r lease,
        ((machine.run (new settings now) (before ++ op :: after)).register r).1 = .ok lease →
        index < lease.index ∧
          ∀ i ∈ handedOut (new settings now) (before ++ op :: after), i < lease.index := by
  rcases run_new_coherent few with ⟨coherent, counted⟩
  have handedOutBelow : ∀ i ∈ handedOut (new settings now) (before ++ op :: after),
      i < (machine.run (new settings now) (before ++ op :: after)).directory.nextIndex := by
    rw [← Nat.zero_add (machine.admissions _ _)] at few
    exact handedOut_below few ⟨coherent_new settings now, Directory.counted_new⟩
  have retired :
      Retired index (machine.run (new settings now) (before ++ op :: after)) := by
    -- the run up to the operation, and the run from there on
    rw [Machine.admissions_append] at few
    rw [Machine.run_append]
    have fewBefore : machine.admissions (new settings now) before < indexLimit := by omega
    exact takesOut.retired_run few (run_new_coherent fewBefore)
  refine ⟨coherent.absent retired.unknown, ?_⟩
  intro r lease answer
  have next : lease.index =
      (machine.run (new settings now) (before ++ op :: after)).directory.nextIndex := by
    have granted :
        (machine.run (new settings now) (before ++ op :: after)).granted? (.register r) =
          some lease.index := by
      rw [granted?, answer]
      rfl
    exact (granted?_eq_some coherent counted.next_free granted).1
  rw [next]
  exact ⟨retired.handedOut, handedOutBelow⟩

/-- Two components register, and only the first of them renews its lease. -/
def twoArrivals : List Operation :=
  [.register ⟨"w1", "localhost", 2000, "", [], [], [], none⟩,
    .register ⟨"w2", "localhost", 1000, "", [], [], [], none⟩,
    .setClock ⟨150, 0⟩, .heartbeat ⟨1, none⟩]

/-- A component registers again, and it is late that its old index is reported and renewed. -/
def secondComing : List Operation :=
  [.register ⟨"w2", "localhost", 1000, "", [], [], [], none⟩, .notify [2], .heartbeat ⟨2, some 9⟩]

theorem gone_despite_second_coming :
    (machine.run (new .standard ⟨0, 0⟩) twoArrivals).TakesOut 2 .sweep ∧
      (machine.run (new .standard ⟨0, 0⟩) (twoArrivals ++ .sweep :: secondComing)).Absent 2 ∧
      (machine.run (new .standard ⟨0, 0⟩)
        (twoArrivals ++ .sweep :: secondComing)).directory.components.keys = [1, 3] := by
  have few : machine.admissions (new .standard ⟨0, 0⟩) (twoArrivals ++ .sweep :: secondComing) <
      indexLimit := by
    refine Nat.lt_of_le_of_lt (machine.admissions_le _ _) ?_
    decide
  have evicted : (machine.run (new .standard ⟨0, 0⟩) twoArrivals).TakesOut 2 .sweep := by
    constructor
    · decide +kernel
    · decide +kernel
  refine ⟨evicted, (gone_for_good few evicted).1, ?_⟩
  decide +kernel

end Discoverer

end Discovery
