import Discovery.Query.Index

/-!
# What index tables list

The tables are known by what they list: which component under which value of which facet. Whether a
facet has no table, a table has no entry for a value, or the entry lacks the index makes no difference
to that.

* `lists_addAll`: a component's description is listed under the component's index, and nothing else
  is new;
* `lists_removeAll`: what is taken out is no longer listed, however often the description repeats a
  value, and what other components share stays.
-/

namespace Discovery

namespace Component

/-- The values of a facet are those that the description has for it. -/
theorem mem_valuesOf_iff {c : Component} {facet : Facet} {value : String} :
    value ∈ c.valuesOf facet ↔ (facet, value) ∈ c.elements := by
  simp [valuesOf]

end Component

namespace IndexTable

/-- Does the table list the component under the value? -/
def lists (table : IndexTable) (value : String) (index : ComponentIndex) : Bool :=
  ((table.get? value).getD .empty).contains index

theorem lists_iff {table : IndexTable} {value : String} {index : ComponentIndex} :
    table.lists value index = true ↔
      ∃ indexes, table.get? value = some indexes ∧ indexes.contains index = true := by
  unfold lists
  cases table.get? value with
  | none => simp [SortedMap.contains]
  | some indexes => simp

theorem lists_insert {table : IndexTable} {value value' : String} {indexes : IndexSet}
    {index : ComponentIndex} :
    lists (table.insert value indexes) value' index = true ↔
      if value = value' then indexes.contains index = true else table.lists value' index = true := by
  unfold lists
  rw [SortedMap.get?_insert]
  split <;> rfl

theorem lists_add {table : IndexTable} {value value' : String} {index index' : ComponentIndex} :
    (table.add value index).lists value' index' = true ↔
      table.lists value' index' = true ∨ (value = value' ∧ index = index') := by
  unfold add
  rw [lists_insert]
  by_cases same : value = value'
  · subst same
    rw [if_pos rfl, SortedMap.contains_insert]
    simp [lists, or_comm]
  · simp [same]

theorem lists_of_none {table : IndexTable} {value : String} (missing : table.get? value = none)
    (index : ComponentIndex) : ¬ table.lists value index = true := by
  simp [lists, missing, SortedMap.contains]

theorem lists_erase {table : IndexTable} {value value' : String} {index : ComponentIndex} :
    lists (table.erase value) value' index = true ↔
      value ≠ value' ∧ table.lists value' index = true := by
  unfold lists
  rw [SortedMap.get?_erase]
  by_cases same : value = value' <;> simp [same, SortedMap.contains]

theorem lists_remove {table : IndexTable} {value value' : String} {index index' : ComponentIndex} :
    (table.remove value index).lists value' index' = true ↔
      table.lists value' index' = true ∧ ¬ (value = value' ∧ index = index') := by
  unfold remove
  cases held : table.get? value with
  | none =>
    constructor
    · intro listed
      refine ⟨listed, ?_⟩
      rintro ⟨rfl, -⟩
      exact lists_of_none held index' listed
    · exact And.left
  | some indexes =>
    -- under the value the index is the only one that goes
    have left : ∀ i, (indexes.erase index).contains i = true ↔
        table.lists value i = true ∧ ¬ index = i := by
      intro i
      rw [SortedMap.contains_erase, and_comm, lists, held, Option.getD_some]
    by_cases emptied : (indexes.erase index).isEmpty = true
    · -- the value goes with its last index
      have nothing : ¬ (indexes.erase index).contains index' = true :=
        SortedMap.not_contains_iff.mpr (SortedMap.get?_of_isEmpty emptied index')
      simp only [emptied, if_true]
      rw [lists_erase]
      by_cases same : value = value'
      · subst same
        rw [left] at nothing
        simpa using nothing
      · simp [same]
    · simp only [emptied]
      rw [if_neg (by simp), lists_insert]
      by_cases same : value = value'
      · subst same
        rw [if_pos rfl, left]
        simp
      · simp [same]

end IndexTable

namespace IndexTables

/-- Do the tables list the component under the value of the facet? -/
def lists (tables : IndexTables) (facet : Facet) (value : String) (index : ComponentIndex) : Bool :=
  IndexTable.lists ((tables.get? facet).getD .empty) value index

theorem lists_insert {tables : IndexTables} {facet facet' : Facet} {table : IndexTable}
    {value : String} {index : ComponentIndex} :
    lists (tables.insert facet table) facet' value index = true ↔
      if facet = facet' then table.lists value index = true
      else tables.lists facet' value index = true := by
  unfold lists
  rw [SortedMap.get?_insert]
  split <;> rfl

theorem lists_add {tables : IndexTables} {index index' : ComponentIndex} {element : Facet × String}
    {facet : Facet} {value : String} :
    (add index tables element).lists facet value index' = true ↔
      tables.lists facet value index' = true ∨ (element = (facet, value) ∧ index = index') := by
  rcases element with ⟨facet', value'⟩
  unfold add
  rw [lists_insert]
  by_cases same : facet' = facet
  · subst same
    rw [if_pos rfl, IndexTable.lists_add]
    simp [lists]
  · simp [same]

theorem lists_remove {tables : IndexTables} {index index' : ComponentIndex}
    {element : Facet × String} {facet : Facet} {value : String} :
    (remove index tables element).lists facet value index' = true ↔
      tables.lists facet value index' = true ∧ ¬ (element = (facet, value) ∧ index = index') := by
  rcases element with ⟨facet', value'⟩
  unfold remove
  cases held : tables.get? facet' with
  | none =>
    constructor
    · intro listed
      refine ⟨listed, ?_⟩
      rintro ⟨same, -⟩
      cases same
      simp [lists, held, IndexTable.lists, SortedMap.contains] at listed
    · exact And.left
  | some table =>
    simp only
    rw [lists_insert]
    by_cases same : facet' = facet
    · subst same
      rw [if_pos rfl, IndexTable.lists_remove]
      simp [lists, held]
    · simp [same]

/-- Adding elements one after another lists each of them. -/
theorem lists_foldl_add {index index' : ComponentIndex} {elements : List (Facet × String)}
    {tables : IndexTables} {facet : Facet} {value : String} :
    lists (elements.foldl (add index) tables) facet value index' = true ↔
      tables.lists facet value index' = true ∨ ((facet, value) ∈ elements ∧ index = index') := by
  induction elements generalizing tables with
  | nil => simp
  | cons element elements ih =>
    rw [List.foldl_cons, ih, lists_add, or_assoc, ← or_and_right, List.mem_cons,
      eq_comm (a := element)]

/-- Removing elements one after another leaves what is none of them. -/
theorem lists_foldl_remove {index index' : ComponentIndex} {elements : List (Facet × String)}
    {tables : IndexTables} {facet : Facet} {value : String} :
    lists (elements.foldl (remove index) tables) facet value index' = true ↔
      tables.lists facet value index' = true ∧ ¬ ((facet, value) ∈ elements ∧ index = index') := by
  induction elements generalizing tables with
  | nil => simp
  | cons element elements ih =>
    rw [List.foldl_cons, ih, lists_remove, and_assoc, ← not_or, ← or_and_right, List.mem_cons,
      eq_comm (a := element)]

/-- A description is listed under its component's index, and nothing else is new. -/
theorem lists_addAll {tables : IndexTables} {c : Component} {facet : Facet} {value : String}
    {index : ComponentIndex} :
    (tables.addAll c).lists facet value index = true ↔
      tables.lists facet value index = true ∨ (value ∈ c.valuesOf facet ∧ c.index = index) := by
  rw [addAll, lists_foldl_add, Component.mem_valuesOf_iff]

/-- A description that was taken out is no longer listed, and nothing else is missing. -/
theorem lists_removeAll {tables : IndexTables} {c : Component} {facet : Facet} {value : String}
    {index : ComponentIndex} :
    (tables.removeAll c).lists facet value index = true ↔
      tables.lists facet value index = true ∧ ¬ (value ∈ c.valuesOf facet ∧ c.index = index) := by
  rw [removeAll, lists_foldl_remove, Component.mem_valuesOf_iff]

end IndexTables

end Discovery
