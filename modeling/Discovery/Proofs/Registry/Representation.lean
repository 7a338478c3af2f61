import Discovery.Proofs.Registry.Consistency

/-!
# A directory is determined by its components

Removing a component undoes what inserting it did to the index tables, element by element. What is left
behind depends on the history in one way only: a facet keeps its table when the last value is gone. Apart
from such empty tables, the components that are present determine the tables and the ids.

* `IndexTables.Filled`: no value is kept without a component that has it;
* `IndexTables.alike_of_lists`: filled tables that list the same are the same, empty ones apart;
* `Consistent.remove_insert`: removing what was just inserted leads back;
* `Reached.representation`: what the records of a reached directory are.
-/

namespace Discovery

namespace SortedMap

variable {κ ν : Type} [LT κ] [DecidableEq κ]

/-- A map without entries is one that holds nothing under any key. -/
theorem isEmpty_iff [KeyOrder κ] {m : SortedMap κ ν} :
    m.isEmpty = true ↔ ∀ key, ¬ m.contains key = true := by
  constructor
  · intro empty key
    exact not_contains_iff.mpr (get?_of_isEmpty empty key)
  · intro nothing
    refine List.isEmpty_iff.mpr (List.eq_nil_iff_forall_not_mem.mpr ?_)
    rintro ⟨key, value⟩ mem
    exact nothing key (contains_iff.mpr ⟨value, mem_entries_iff.mp mem⟩)

theorem exists_contains [KeyOrder κ] {m : SortedMap κ ν} (some : ¬ m.isEmpty = true) :
    ∃ key, m.contains key = true := by
  rw [isEmpty_iff] at some
  simpa using some

end SortedMap

/-- Sets with the same members are equal. -/
theorem IndexSet.ext_contains {indexes indexes' : IndexSet}
    (same : ∀ i, indexes.contains i = true ↔ indexes'.contains i = true) : indexes = indexes' := by
  refine SortedMap.ext_get? fun i => ?_
  have here := same i
  rw [SortedMap.contains, SortedMap.contains] at here
  cases held : indexes.get? i with
  | none =>
    cases held' : indexes'.get? i with
    | none => rfl
    | some => simp [held, held'] at here
  | some =>
    cases held' : indexes'.get? i with
    | none => simp [held, held'] at here
    | some => rfl

/-! ## Tables without empty entries -/

namespace IndexTable

/-- No value is kept without a component that has it. -/
def Filled (table : IndexTable) : Prop :=
  ∀ value indexes, table.get? value = some indexes → ¬ indexes.isEmpty = true

variable {table table' : IndexTable}

theorem filled_empty : Filled .empty := by
  intro value indexes held
  cases held

/-- An entry that holds a component may be put into a filled table. -/
theorem Filled.put (filled : table.Filled) (value : String) {indexes : IndexSet}
    (some : ¬ indexes.isEmpty = true) : Filled (table.insert value indexes) := by
  intro value' indexes' held
  rw [SortedMap.get?_insert] at held
  split at held
  · cases held
    exact some
  · exact filled value' indexes' held

theorem Filled.add (filled : table.Filled) (value : String) (index : ComponentIndex) :
    (table.add value index).Filled := by
  refine filled.put value ?_
  intro empty
  have member : (((table.get? value).getD .empty).insert index ()).contains index = true :=
    SortedMap.contains_insert.mpr (.inl rfl)
  exact SortedMap.isEmpty_iff.mp empty index member

/-- An entry that loses its last component goes with it. -/
theorem Filled.remove (filled : table.Filled) (value : String) (index : ComponentIndex) :
    (table.remove value index).Filled := by
  unfold IndexTable.remove
  split
  · exact filled
  · next indexes held =>
    by_cases emptied : (indexes.erase index).isEmpty = true
    · simp only [emptied, if_true]
      intro value' indexes' held'
      rw [SortedMap.get?_erase] at held'
      split at held'
      · cases held'
      · exact filled value' indexes' held'
    · simp only [emptied]
      exact filled.put value emptied

/-- Filled tables that list the same are equal. -/
theorem Filled.ext (filled : table.Filled) (filled' : table'.Filled)
    (same : ∀ value i, table.lists value i = true ↔ table'.lists value i = true) :
    table = table' := by
  refine SortedMap.ext_get? fun value => ?_
  have entries : ∀ i, (((table.get? value).getD .empty).contains i = true ↔
      ((table'.get? value).getD .empty).contains i = true) := same value
  -- under each value the sets are equal; that the values are the same is what the emptiness is about
  have sets := IndexSet.ext_contains entries
  cases held : table.get? value with
  | none =>
    cases held' : table'.get? value with
    | none => rfl
    | some indexes' =>
      have empty : indexes' = .empty := by
        rw [held, held'] at sets
        exact sets.symm
      exact absurd (by rw [empty]; rfl) (filled' value indexes' held')
  | some indexes =>
    cases held' : table'.get? value with
    | none =>
      have empty : indexes = .empty := by
        rw [held, held'] at sets
        exact sets
      exact absurd (by rw [empty]; rfl) (filled value indexes held)
    | some indexes' =>
      rw [held, held'] at sets
      exact congrArg some sets

end IndexTable

namespace IndexTables

/-- In no table a value is kept without a component that has it. -/
def Filled (tables : IndexTables) : Prop :=
  ∀ facet table, tables.get? facet = some table → table.Filled

/-- The tables that are not empty are the same. -/
def Alike (tables tables' : IndexTables) : Prop :=
  ∀ facet (table : IndexTable), ¬ table.isEmpty = true →
    (tables.get? facet = some table ↔ tables'.get? facet = some table)

variable {tables tables' : IndexTables}

theorem filled_empty : Filled .empty := by
  intro facet table held
  cases held

theorem Filled.put (filled : tables.Filled) (facet : Facet) {table : IndexTable}
    (filledTable : table.Filled) : Filled (tables.insert facet table) := by
  intro facet' table' held
  rw [SortedMap.get?_insert] at held
  split at held
  · cases held
    exact filledTable
  · exact filled facet' table' held

theorem Filled.getD (filled : tables.Filled) (facet : Facet) :
    ((tables.get? facet).getD .empty).Filled := by
  cases held : tables.get? facet with
  | none => exact IndexTable.filled_empty
  | some table => exact filled facet table held

theorem Filled.add (filled : tables.Filled) (index : ComponentIndex) (element : Facet × String) :
    (add index tables element).Filled :=
  filled.put element.1 ((filled.getD element.1).add element.2 index)

theorem Filled.remove (filled : tables.Filled) (index : ComponentIndex)
    (element : Facet × String) : (remove index tables element).Filled := by
  unfold IndexTables.remove
  split
  · exact filled
  · next table held => exact filled.put element.1 ((filled element.1 table held).remove _ _)

theorem Filled.addAll (filled : tables.Filled) (c : Component) : (tables.addAll c).Filled :=
  List.foldlRecOn c.elements _ filled fun _ here element _ => here.add c.index element

theorem Filled.removeAll (filled : tables.Filled) (c : Component) : (tables.removeAll c).Filled :=
  List.foldlRecOn c.elements _ filled fun _ here element _ => here.remove c.index element

/-- What is in a table of its own is listed. -/
theorem lists_of_get? {facet : Facet} {table : IndexTable} (held : tables.get? facet = some table)
    (value : String) (i : ComponentIndex) :
    tables.lists facet value i = table.lists value i := by
  rw [lists, held, Option.getD_some]

/-- A component is listed if some entry of some table holds it. -/
theorem lists_iff {facet : Facet} {value : String} {i : ComponentIndex} :
    tables.lists facet value i = true ↔ ∃ table indexes, tables.get? facet = some table ∧
      table.get? value = some indexes ∧ indexes.contains i = true := by
  constructor
  · intro listed
    cases held : tables.get? facet with
    | none =>
      rw [lists, held] at listed
      cases listed
    | some table =>
      rw [lists_of_get? held] at listed
      rcases IndexTable.lists_iff.mp listed with ⟨indexes, entry, member⟩
      exact ⟨table, indexes, rfl, entry, member⟩
  · rintro ⟨table, indexes, held, entry, member⟩
    rw [lists_of_get? held]
    exact IndexTable.lists_iff.mpr ⟨indexes, entry, member⟩

/-- A table that is not empty is found among other filled tables that list the same. -/
theorem Filled.get?_of_lists (filled : tables.Filled) (filled' : tables'.Filled)
    (same : ∀ facet value i,
      tables.lists facet value i = true ↔ tables'.lists facet value i = true)
    {facet : Facet} {table : IndexTable} (some : ¬ table.isEmpty = true)
    (held : tables.get? facet = .some table) : tables'.get? facet = .some table := by
  -- an entry of the table holds a component, which the other tables have to list
  rcases SortedMap.exists_contains some with ⟨value, kept⟩
  rcases SortedMap.contains_iff.mp kept with ⟨indexes, entry⟩
  rcases SortedMap.exists_contains (filled facet table held value indexes entry) with ⟨i, member⟩
  have listed := (same facet value i).mp (lists_iff.mpr ⟨table, indexes, held, entry, member⟩)
  rcases lists_iff.mp listed with ⟨table', -, held', -⟩
  have equal : table = table' := by
    refine (filled facet table held).ext (filled' facet table' held') fun value i => ?_
    rw [← lists_of_get? held, ← lists_of_get? held']
    exact same facet value i
  rw [held', equal]

/-- Filled tables that list the same are the same, empty ones apart. -/
theorem alike_of_lists (filled : tables.Filled) (filled' : tables'.Filled)
    (same : ∀ facet value i,
      tables.lists facet value i = true ↔ tables'.lists facet value i = true) :
    tables.Alike tables' := by
  intro facet table some
  constructor
  · exact filled.get?_of_lists filled' same some
  · exact filled'.get?_of_lists filled (fun facet value i => (same facet value i).symm) some

end IndexTables

/-! ## Directories -/

namespace Directory

variable {d d' : Directory} {r : Registration} {index : ComponentIndex}

theorem filled_insert (filled : d.tables.Filled) (done : d.insert r = .ok (index, d')) :
    d'.tables.Filled := by
  rcases insert_ok done with ⟨-, -, rfl⟩
  exact filled.addAll _

theorem filled_remove (filled : d.tables.Filled) (index : ComponentIndex) :
    (d.remove index).2.tables.Filled := by
  unfold remove
  split
  · exact filled
  · exact filled.removeAll _

theorem step_filled {op : Operation} (filled : d.tables.Filled) : (d.step op).tables.Filled := by
  cases op with
  | insert r =>
    simp only [step]
    split
    · next done => exact filled_insert filled done
    · exact filled
  | remove index => exact filled_remove filled index

theorem Reached.filled (reached : d.Reached) : d.tables.Filled := by
  have hinit : ∀ s : Directory, s = new → s.tables.Filled := by
    rintro s rfl
    exact IndexTables.filled_empty
  have hstep : ∀ (n : Nat) (s : Directory) (op : Operation),
      n + (s.admits op).toNat < indexLimit → s.tables.Filled → (s.step op).tables.Filled :=
    fun _ _ _ _ => step_filled
  rcases Machine.Reached.invariant hinit hstep reached with ⟨-, -, filled⟩
  exact filled

/-- The components that are present determine the ids and, empty ones apart, the tables. -/
theorem Consistent.determined (consistent : d.Consistent) (consistent' : d'.Consistent)
    (filled : d.tables.Filled) (filled' : d'.tables.Filled)
    (same : d'.components = d.components) : d'.ids = d.ids ∧ d'.tables.Alike d.tables := by
  constructor
  · refine SortedMap.ext_get? fun id => Option.ext fun i => ?_
    rw [consistent.ids, consistent'.ids, same]
  · refine IndexTables.alike_of_lists filled' filled fun facet value i => ?_
    rw [consistent.listed, consistent'.listed, same]

/-- An id leads to a component if it is taken. -/
theorem Consistent.taken_iff (consistent : d.Consistent) {id : String} :
    d.ids.contains id = true ↔ ∃ i c, d.get? i = some c ∧ c.id = id := by
  rw [SortedMap.contains_iff]
  constructor
  · rintro ⟨i, led⟩
    exact ⟨i, consistent.ids.mp led⟩
  · rintro ⟨i, known⟩
    exact ⟨i, consistent.ids.mpr known⟩

theorem insert_eq_error_iff : d.insert r = .error (.duplicateId r.id) ↔ d.ids.contains r.id = true := by
  constructor
  · intro refused
    exact (insert_error refused).1
  · intro taken
    rw [insert, if_pos taken]

theorem exists_insert_iff :
    (∃ index after, d.insert r = .ok (index, after)) ↔ ¬ d.ids.contains r.id = true := by
  constructor
  · rintro ⟨index, after, done⟩
    exact SortedMap.not_contains_iff.mpr (insert_ok done).1
  · intro free
    exact ⟨_, _, if_neg free⟩

/-- Removing what was just inserted answers the component and leads back, apart from tables that are
empty now. -/
theorem Consistent.remove_insert (consistent : d.Consistent) (filled : d.tables.Filled)
    (free : d.components.get? d.nextIndex = none) (done : d.insert r = .ok (index, d')) :
    (d'.remove index).1 = some (r.component index) ∧
      (d'.remove index).2.components = d.components ∧ (d'.remove index).2.ids = d.ids ∧
      (d'.remove index).2.tables.Alike d.tables := by
  -- the components determine the other records, so it is enough that they are the same
  have consistentAfter : (d'.remove index).2.Consistent := (consistent.insert free done).remove
  have filledAfter := filled_remove (filled_insert filled done) index
  rcases insert_ok done with ⟨-, next, after⟩
  have stored : d'.components = d.components.insert index (r.component index) := by rw [after]
  have answer : (d'.remove index).1 = some (r.component index) := by
    rw [fst_remove, stored, SortedMap.get?_insert, if_pos rfl]
  have components : (d'.remove index).2.components = d.components := by
    refine SortedMap.ext_get? fun i => ?_
    rw [get?_remove, stored, SortedMap.get?_insert]
    split
    · next here => rw [← here, next, free]
    · rfl
  exact ⟨answer, components, consistent.determined consistentAfter filled filledAfter components⟩

/-- In every reached directory: a table holds an index under a value if and only if the component with
the index has the value; no entry of a table is empty; the ids lead to the components that have them,
each to one; a component is stored under its own index, below the next one; and an insertion is refused
for an id that a component has, and only then. So the components that are present determine the ids and
the tables that are not empty, whatever happened before, and removing what was just inserted answers it
and leads back. -/
theorem Reached.representation (reached : d.Reached) :
    (∀ facet value i,
      (∃ table indexes, d.tables.get? facet = some table ∧ table.get? value = some indexes ∧
        indexes.contains i = true) ↔ ∃ c, d.get? i = some c ∧ value ∈ c.valuesOf facet) ∧
      (∀ facet table value indexes, d.tables.get? facet = some table →
        table.get? value = some indexes → ¬ indexes.isEmpty = true) ∧
      (∀ id i, d.indexOf? id = some i ↔ ∃ c, d.get? i = some c ∧ c.id = id) ∧
      (∀ i i' c c', d.get? i = some c → d.get? i' = some c' → c.id = c'.id → i = i') ∧
      (∀ i c, d.get? i = some c → c.index = i ∧ i < d.nextIndex) ∧
      (∀ r, (d.insert r = .error (.duplicateId r.id) ↔ ∃ i c, d.get? i = some c ∧ c.id = r.id) ∧
        ((∃ index after, d.insert r = .ok (index, after)) ↔
          ¬ ∃ i c, d.get? i = some c ∧ c.id = r.id)) ∧
      (∀ d' : Directory, d'.Reached → d'.components = d.components →
        d'.ids = d.ids ∧ d'.tables.Alike d.tables) ∧
      ∀ r index after, d.insert r = .ok (index, after) →
        (after.remove index).1 = some (r.component index) ∧
          (after.remove index).2.components = d.components ∧ (after.remove index).2.ids = d.ids ∧
          (after.remove index).2.tables.Alike d.tables := by
  rcases reached.consistent with ⟨consistent, n, -, counted⟩
  have filled := reached.filled
  refine ⟨?_, ?_, ?_, ?_, ?_, ?_, ?_, ?_⟩
  · intro facet value i
    rw [← IndexTables.lists_iff]
    exact consistent.listed
  · intro facet table value indexes held entry
    exact filled facet table held value indexes entry
  · intro id i
    exact consistent.ids
  · intro i i' c c' known known' same
    -- one id leads to one index
    have led : d.ids.get? c.id = some i := consistent.ids.mpr ⟨c, known, rfl⟩
    have led' : d.ids.get? c.id = some i' := consistent.ids.mpr ⟨c', known', same.symm⟩
    rw [led] at led'
    cases led'
    rfl
  · intro i c known
    exact ⟨consistent.own_index known, counted.below (SortedMap.contains_iff.mpr ⟨c, known⟩)⟩
  · intro r
    rw [insert_eq_error_iff, exists_insert_iff, consistent.taken_iff]
    exact ⟨Iff.rfl, Iff.rfl⟩
  · intro d' reached' same
    exact consistent.determined reached'.consistent.1 filled reached'.filled same
  · intro r index after done
    exact consistent.remove_insert filled counted.next_free done

/-- A component that lists a value twice, one with the same value that stays, and one that is refused. -/
def departure : List Operation :=
  [.insert ⟨"w1", "", 2000, "", ["light", "heat", "heat"], ["tick"], [], none⟩,
    .insert ⟨"w2", "localhost", 1000, "", ["heat", ""], [], [], none⟩,
    .insert ⟨"w1", "", 80, "", [], [], [], none⟩, .remove 1]

/-- The same component remains after one of which nothing is shared. -/
def replacement : List Operation :=
  [.insert ⟨"w9", "", 9, "", [], [], [], none⟩, .remove 1, .remove 7,
    .insert ⟨"w2", "localhost", 1000, "", ["heat", ""], [], [], none⟩]

/-- The two histories leave different empty tables and are alike in everything else. A third component
that comes and goes leaves them so. -/
theorem representation_after_departure :
    (machine.run new departure).Reached ∧ (machine.run new replacement).Reached ∧
      (machine.run new replacement).components = (machine.run new departure).components ∧
      (machine.run new replacement).tables ≠ (machine.run new departure).tables ∧
      (machine.run new replacement).ids = (machine.run new departure).ids ∧
      (machine.run new replacement).tables.Alike (machine.run new departure).tables ∧
      (machine.run new departure).get? 2 =
        some ⟨2, "w2", "localhost", 1000, "", ["heat", ""], [], []⟩ ∧
      (2 : ComponentIndex) < (machine.run new departure).nextIndex ∧
      ∃ after, (machine.run new departure).insert
          ⟨"w1", "", 1, "", ["heat", "heat"], [], [], none⟩ = .ok (3, after) ∧
        (after.remove 3).2.components = (machine.run new departure).components := by
  have reached : (machine.run new departure).Reached := reached_run (by decide)
  have reached' : (machine.run new replacement).Reached := reached_run (by decide)
  have same : (machine.run new replacement).components = (machine.run new departure).components := by
    decide +kernel
  have known : (machine.run new departure).get? 2 =
      some ⟨2, "w2", "localhost", 1000, "", ["heat", ""], [], []⟩ := by decide +kernel
  have differ : (machine.run new replacement).tables ≠ (machine.run new departure).tables := by
    decide +kernel
  rcases Reached.representation reached with ⟨-, -, -, -, stored, -, determined, back⟩
  rcases determined _ reached' same with ⟨ids, alike⟩
  have granted : ∃ after, (machine.run new departure).insert
      ⟨"w1", "", 1, "", ["heat", "heat"], [], [], none⟩ = .ok (3, after) := ⟨_, by rfl⟩
  rcases granted with ⟨after, done⟩
  exact ⟨reached, reached', same, differ, ids, alike, known, (stored 2 _ known).2, after, done,
    (back _ 3 after done).2.1⟩

end Directory

end Discovery
