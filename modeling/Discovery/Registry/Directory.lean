import Discovery.Message.Registration
import Discovery.Query.Evaluate

/-!
# The directory of components

The directory holds the description of every registered component under its index, the index tables
that queries read, and the index of every id. An id is registered once at a time.

Indexes are handed out in ascending order from one on. They are words of thirty-two bits, and after
the last of them the counter begins again at zero.
-/

namespace Discovery

/-- Why a registration is refused. -/
inductive DirectoryError where
  /-- A component with the id is registered. -/
  | duplicateId (id : String)
deriving Repr, DecidableEq

def DirectoryError.message : DirectoryError → String
  | .duplicateId id => s!"a component with id '{id}' is already registered"

/-- The registered components. -/
structure Directory where
  components : SortedMap ComponentIndex Component
  tables : IndexTables
  ids : SortedMap String ComponentIndex
  /-- The index that the next registration gets. -/
  nextIndex : ComponentIndex
deriving Repr, DecidableEq

namespace Directory

def new : Directory := ⟨.empty, .empty, .empty, 1⟩

/-- Records a component under the next index. -/
def insert (d : Directory) (r : Registration) :
    Except DirectoryError (ComponentIndex × Directory) :=
  if d.ids.contains r.id then .error (.duplicateId r.id)
  else
    let index := d.nextIndex
    let component := r.component index
    .ok (index,
      { components := d.components.insert index component
        tables := d.tables.addAll component
        ids := d.ids.insert component.id index
        -- beyond the last index it begins again from zero
        nextIndex := index + 1 })

/-- Forgets the component of an index: what it was, and the directory without it. -/
def remove (d : Directory) (index : ComponentIndex) : Option Component × Directory :=
  match d.components.get? index with
  | none => (none, d)
  | some component =>
    (some component,
      { d with
        components := d.components.erase index
        tables := d.tables.removeAll component
        ids := d.ids.erase component.id })

def get? (d : Directory) (index : ComponentIndex) : Option Component :=
  d.components.get? index

/-- The index of the component with an id. -/
def indexOf? (d : Directory) (id : String) : Option ComponentIndex :=
  d.ids.get? id

def contains (d : Directory) (index : ComponentIndex) : Bool :=
  d.components.contains index

def size (d : Directory) : Nat :=
  d.components.size

/-- What queries over the directory are evaluated against. -/
def dataModel (d : Directory) : DataModel :=
  ⟨d.components.keys, d.tables⟩

end Directory

end Discovery
