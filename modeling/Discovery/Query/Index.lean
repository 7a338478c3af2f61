import Discovery.Component.Basic

/-!
# Index tables

For each facet there may be a table that lists, for each value of the facet, the components that have
it. Adding a component's element makes its table if there is none yet. Removing one takes the index
out and, with the last index, the value; the table stays.
-/

namespace Discovery

/-- A set of components, by index. -/
abbrev IndexSet := SortedMap ComponentIndex Unit

/-- For each value of a facet, the components that have it. -/
abbrev IndexTable := SortedMap String IndexSet

/-- The tables of the facets that have one. -/
abbrev IndexTables := SortedMap Facet IndexTable

/-- The table with the component listed under the value. -/
def IndexTable.add (table : IndexTable) (value : String) (index : ComponentIndex) : IndexTable :=
  table.insert value (((table.get? value).getD .empty).insert index ())

/-- The table without the component under the value, nor the value if no component is left. -/
def IndexTable.remove (table : IndexTable) (value : String) (index : ComponentIndex) :
    IndexTable :=
  match table.get? value with
  | none => table
  | some indexes =>
    let left := indexes.erase index
    if left.isEmpty then table.erase value else table.insert value left

namespace IndexTables

/-- The tables with one element of a component's description. -/
def add (index : ComponentIndex) (tables : IndexTables) (element : Facet × String) : IndexTables :=
  tables.insert element.1 (((tables.get? element.1).getD .empty).add element.2 index)

/-- The tables without one element of a component's description. -/
def remove (index : ComponentIndex) (tables : IndexTables) (element : Facet × String) :
    IndexTables :=
  match tables.get? element.1 with
  | none => tables
  | some table => tables.insert element.1 (table.remove element.2 index)

/-- The tables with all of a component's description. -/
def addAll (tables : IndexTables) (c : Component) : IndexTables :=
  c.elements.foldl (add c.index) tables

/-- The tables without a component's description. -/
def removeAll (tables : IndexTables) (c : Component) : IndexTables :=
  c.elements.foldl (remove c.index) tables

end IndexTables

end Discovery
