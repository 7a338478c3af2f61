import Discovery.SortedMap

/-!
# Facets of a component

What a component is described by and can be searched for: each element of a description is a value
of one of seven facets.
-/

namespace Discovery

/-- What a value says of a component. -/
inductive Facet where
  | id
  | hostname
  | port
  | type
  | attributes
  | callbacks
  | services
deriving Repr, DecidableEq

namespace Facet

/-- The facets in their order. -/
def all : List Facet := [id, hostname, port, type, attributes, callbacks, services]

/-- The name of the facet in messages and predicates. -/
def name : Facet → String
  | id => "id"
  | hostname => "hostname"
  | port => "port"
  | type => "type"
  | attributes => "attribute"
  | callbacks => "callback"
  | services => "service"

/-- The facet of a name. -/
def ofName? (s : String) : Option Facet :=
  all.find? (·.name = s)

/-- What is said of a name that no facet has. -/
def unknownMessage (s : String) : String :=
  s!"unknown element kind '{s}'"

/-- The place of the facet in the order. -/
def rank : Facet → Nat
  | id => 0
  | hostname => 1
  | port => 2
  | type => 3
  | attributes => 4
  | callbacks => 5
  | services => 6

/-- A facet is told by its place. -/
theorem rank_injective {f g : Facet} (same : f.rank = g.rank) : f = g := by
  cases f <;> cases g <;> first | rfl | cases same

instance : LT Facet := ⟨fun f g => f.rank < g.rank⟩

instance : DecidableLT Facet := fun f g => Nat.decLt f.rank g.rank

instance : KeyOrder Facet where
  irrefl f := Nat.lt_irrefl f.rank
  trans := Nat.lt_trans
  connected h h' := rank_injective (Nat.le_antisymm (Nat.not_lt.mp h') (Nat.not_lt.mp h))

/-- Every facet is found by its name. -/
@[simp] theorem ofName?_name (f : Facet) : ofName? f.name = some f := by
  cases f <;> simp [ofName?, all, name]

/-- A facet is found by its own name only. -/
theorem ofName?_eq_some_iff {s : String} {f : Facet} : ofName? s = some f ↔ s = f.name := by
  constructor
  · intro found
    have named := List.find?_some found
    exact (of_decide_eq_true named).symm
  · rintro rfl
    exact ofName?_name f

end Facet

end Discovery
