import Discovery.Proofs.Machine
import Discovery.Proofs.Registry.Tables
import Discovery.Registry.Directory

/-!
# Consistent directories

What the directory holds under an index, what its tables list and which ids are taken are three
records of the same components. `Consistent` says that they agree.

* `get?_remove`, `lists_remove`, `ids_remove`: what removing does to each record;
* `Reached.consistent`: the records agree after any insertions and removals, and the next index is
  free.
-/

namespace Discovery

namespace Directory

variable {d d' : Directory} {r : Registration} {index : ComponentIndex}

/-! ## Runs -/

/-- What changes a directory. -/
inductive Operation where
  | insert (r : Registration)
  | remove (index : ComponentIndex)
deriving Repr, DecidableEq

/-- The directory after an operation. An insertion that is refused changes nothing. -/
def step (d : Directory) : Operation → Directory
  | .insert r =>
    match d.insert r with
    | .ok (_, after) => after
    | .error _ => d
  | .remove index => (d.remove index).2

def admits (d : Directory) : Operation → Bool
  | .insert r => (d.insert r).isOk
  | .remove _ => false

def machine : Machine Directory Operation := ⟨step, admits⟩

/-- The directories that insertions and removals lead to. -/
def Reached (d : Directory) : Prop :=
  machine.Reached (· = .new) d

theorem reached_run {ops : List Operation} (short : ops.length < indexLimit) :
    (machine.run new ops).Reached := by
  refine machine.reached_of_short ?_ short
  exact rfl

/-! ## Agreement of the records -/

/-- The three records of the components agree. -/
structure Consistent (d : Directory) : Prop where
  /-- A component is stored under its own index. -/
  own_index : ∀ {i c}, d.components.get? i = some c → c.index = i
  /-- A component is listed under its values, and nothing else is listed. -/
  listed : ∀ {f v i}, d.tables.lists f v i = true ↔
    ∃ c, d.components.get? i = some c ∧ v ∈ c.valuesOf f
  /-- The ids are those of the components. -/
  ids : ∀ {id i}, d.ids.get? id = some i ↔ ∃ c, d.components.get? i = some c ∧ c.id = id

/-- So many components were entered, each under the index that came next. -/
structure Counted (n : Nat) (d : Directory) : Prop where
  next : d.nextIndex.toNat = n + 1
  below : ∀ {i}, d.contains i = true → i < d.nextIndex

theorem consistent_new : Consistent new where
  own_index held := by cases held
  listed := by
    intro f v i
    constructor
    · intro listed
      cases listed
    · rintro ⟨c, held, -⟩
      cases held
  ids := by simp [new]

theorem counted_new : Counted 0 new where
  next := rfl
  below held := by cases held

theorem Counted.next_free {n : Nat} (counted : d.Counted n) :
    d.components.get? d.nextIndex = none := by
  rw [← SortedMap.not_contains_iff]
  intro held
  exact UInt32.lt_irrefl _ (counted.below held)

/-! ## Insertion -/

/-- An insertion that succeeds enters a component with an id that is not taken. -/
theorem insert_ok (done : d.insert r = .ok (index, d')) :
    d.ids.get? r.id = none ∧ index = d.nextIndex ∧
      d' = ⟨d.components.insert index (r.component index), d.tables.addAll (r.component index),
        d.ids.insert r.id index, index + 1⟩ := by
  unfold insert at done
  split at done
  · cases done
  · next free =>
    cases done
    exact ⟨SortedMap.not_contains_iff.mp free, rfl, rfl⟩

/-- An insertion is refused for an id that is taken only. -/
theorem insert_error {error : DirectoryError} (refused : d.insert r = .error error) :
    d.ids.contains r.id = true ∧ error = .duplicateId r.id := by
  unfold insert at refused
  split at refused
  · next taken =>
    cases refused
    exact ⟨taken, rfl⟩
  · cases refused

theorem contains_of_insert (done : d.insert r = .ok (index, d')) {i : ComponentIndex} :
    d'.contains i = true ↔ index = i ∨ d.contains i = true := by
  rcases insert_ok done with ⟨-, -, rfl⟩
  exact SortedMap.contains_insert

theorem Consistent.insert (consistent : d.Consistent)
    (free : d.components.get? d.nextIndex = none) (done : d.insert r = .ok (index, d')) :
    d'.Consistent := by
  rcases insert_ok done with ⟨idFree, rfl, rfl⟩
  constructor
  case own_index =>
    intro i c held
    rw [SortedMap.get?_insert] at held
    split at held
    · next here =>
      cases held
      exact here
    · exact consistent.own_index held
  case listed =>
    intro f v i
    rw [IndexTables.lists_addAll, consistent.listed, SortedMap.get?_insert]
    by_cases here : d.nextIndex = i
    · subst here
      simp [free, Registration.component]
    · simp [here, Registration.component]
  case ids =>
    intro id i
    rw [SortedMap.get?_insert, SortedMap.get?_insert]
    by_cases here : d.nextIndex = i
    · subst here
      -- no id leads to the next index before
      have unused : ¬ d.ids.get? id = some d.nextIndex := by
        rw [consistent.ids, free]
        simp
      by_cases same : r.id = id <;> simp [same, unused, Registration.component]
    · by_cases same : r.id = id
      · subst same
        -- no component has the id before
        have unused : ¬ ∃ c, d.components.get? i = some c ∧ c.id = r.id := by
          rw [← consistent.ids, idFree]
          simp
        simpa [here] using unused
      · simp [here, same, consistent.ids]

theorem Counted.insert {n : Nat} (counted : d.Counted n) (few : n + 1 < indexLimit)
    (done : d.insert r = .ok (index, d')) : d'.Counted (n + 1) := by
  have nextBefore := counted.next
  -- below the limit the counter does not begin again
  have next : (d.nextIndex + 1).toNat = n + 1 + 1 := by
    simp only [indexLimit] at few
    rw [UInt32.toNat_add, nextBefore]
    exact Nat.mod_eq_of_lt (by simp; omega)
  have below : ∀ {i}, d'.contains i = true → i < d.nextIndex + 1 := by
    intro i held
    rw [UInt32.lt_iff_toNat_lt, next]
    rcases (contains_of_insert done).mp held with rfl | before
    · rw [(insert_ok done).2.1]
      omega
    · have := UInt32.lt_iff_toNat_lt.mp (counted.below before)
      omega
  rcases insert_ok done with ⟨-, rfl, rfl⟩
  exact ⟨next, below⟩

/-! ## Removal -/

/-- Removing empties the record of components at the index only. -/
theorem get?_remove (i : ComponentIndex) :
    (d.remove index).2.components.get? i =
      if index = i then none else d.components.get? i := by
  unfold remove
  split
  · next unknown =>
    split
    · next here => rw [← here, unknown]
    · rfl
  · exact SortedMap.get?_erase ..

theorem contains_remove {i : ComponentIndex} :
    (d.remove index).2.contains i = true ↔ index ≠ i ∧ d.contains i = true := by
  show ((d.remove index).2.components.get? i).isSome = true ↔
    index ≠ i ∧ (d.components.get? i).isSome = true
  rw [get?_remove]
  by_cases here : index = i <;> simp [here]

@[simp] theorem nextIndex_remove : (d.remove index).2.nextIndex = d.nextIndex := by
  unfold remove
  split <;> rfl

/-- Removing answers what was stored. -/
theorem fst_remove : (d.remove index).1 = d.components.get? index := by
  unfold remove
  split
  · next unknown => exact unknown.symm
  · next known => exact known.symm

/-- Removing takes the index out of every listing. -/
theorem Consistent.lists_remove (consistent : d.Consistent) {f : Facet} {v : String}
    {i : ComponentIndex} :
    (d.remove index).2.tables.lists f v i = true ↔
      d.tables.lists f v i = true ∧ index ≠ i := by
  unfold remove
  split
  · next unknown =>
    constructor
    · intro listed
      refine ⟨listed, ?_⟩
      rintro rfl
      simp [consistent.listed, unknown] at listed
    · exact And.left
  · next c known =>
    rw [IndexTables.lists_removeAll, consistent.own_index known]
    constructor
    · rintro ⟨listed, notOwn⟩
      refine ⟨listed, ?_⟩
      -- the component has its own elements only, so that none of them is left
      rintro rfl
      rcases consistent.listed.mp listed with ⟨c', known', mem⟩
      rw [known] at known'
      cases known'
      exact notOwn ⟨mem, rfl⟩
    · rintro ⟨listed, differ⟩
      exact ⟨listed, fun own => differ own.2⟩

/-- Removing frees the id that led to the index. -/
theorem Consistent.ids_remove (consistent : d.Consistent) {id : String} {i : ComponentIndex} :
    (d.remove index).2.ids.get? id = some i ↔ d.ids.get? id = some i ∧ index ≠ i := by
  unfold remove
  split
  · next unknown =>
    constructor
    · intro led
      refine ⟨led, ?_⟩
      rintro rfl
      simp [consistent.ids, unknown] at led
    · exact And.left
  · next c known =>
    -- one id leads to the component, and it is this one that is forgotten
    have own : d.ids.get? c.id = some index := consistent.ids.mpr ⟨c, known, rfl⟩
    rw [SortedMap.get?_erase]
    by_cases same : c.id = id
    · subst same
      simp [own]
    · rw [if_neg same]
      constructor
      · intro led
        refine ⟨led, ?_⟩
        rintro rfl
        rcases consistent.ids.mp led with ⟨c', known', idOf⟩
        rw [known] at known'
        cases known'
        exact same idOf
      · exact And.left

theorem Consistent.remove (consistent : d.Consistent) : (d.remove index).2.Consistent where
  own_index held := by
    rw [get?_remove] at held
    split at held
    · cases held
    · exact consistent.own_index held
  listed := by
    intro f v i
    rw [consistent.lists_remove, consistent.listed, get?_remove]
    by_cases here : index = i <;> simp [here]
  ids := by
    intro id i
    rw [consistent.ids_remove, consistent.ids, get?_remove]
    by_cases here : index = i <;> simp [here]

theorem Counted.remove {n : Nat} (counted : d.Counted n) : (d.remove index).2.Counted n where
  next := by rw [nextIndex_remove, counted.next]
  below held := by
    rw [nextIndex_remove]
    exact counted.below (contains_remove.mp held).2

/-! ## Reached directories -/

theorem step_consistent {n : Nat} {op : Operation} (few : n + (d.admits op).toNat < indexLimit)
    (inv : d.Consistent ∧ d.Counted n) :
    (d.step op).Consistent ∧ (d.step op).Counted (n + (d.admits op).toNat) := by
  rcases inv with ⟨consistent, counted⟩
  cases op with
  | insert r =>
    simp only [step, admits] at few ⊢
    cases done : d.insert r with
    | error e => exact ⟨consistent, counted⟩
    | ok answer =>
      rcases answer with ⟨index, after⟩
      rw [done] at few
      exact ⟨consistent.insert counted.next_free done, counted.insert few done⟩
  | remove index => exact ⟨consistent.remove, counted.remove⟩

/-- After any insertions and removals the records agree, and the next index is free. -/
theorem Reached.consistent (reached : d.Reached) :
    d.Consistent ∧ ∃ n, n < indexLimit ∧ d.Counted n := by
  have hinit : ∀ s : Directory, s = new → s.Consistent ∧ s.Counted 0 := by
    rintro s rfl
    exact ⟨consistent_new, counted_new⟩
  rcases Machine.Reached.invariant hinit (fun _ _ _ => step_consistent) reached with
    ⟨n, few, consistent, counted⟩
  exact ⟨consistent, n, few, counted⟩

end Directory

end Discovery
