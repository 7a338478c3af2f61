import Discovery.Number.Decimal

/-!
# Comparisons

The six ways in which a search compares a component's value with a target. Equality is equality of
texts, so that it agrees with a look-up in an index. The other orderings are those of numbers if both
texts denote finite numbers, and those of texts otherwise: by code points, which is also the order of
their bytes in UTF-8.
-/

namespace Discovery

/-- The texts' order: by number if both are finite numbers, by code points otherwise. -/
def compareValues (a b : String) : Ordering :=
  match finite? a, finite? b with
  | some x, some y => compare x y
  | _, _ => compare a b

/-- How a value is compared with a target. -/
inductive Comparison where
  | equal
  | different
  | greater
  | greaterEqual
  | less
  | lessEqual
deriving Repr, DecidableEq

namespace Comparison

def all : List Comparison := [equal, different, greater, greaterEqual, less, lessEqual]

/-- The name of the comparison in messages. -/
def name : Comparison → String
  | equal => "equal"
  | different => "different"
  | greater => "greater"
  | greaterEqual => "greaterEqual"
  | less => "less"
  | lessEqual => "lessEqual"

/-- The operator of the comparison in predicates. -/
def symbol : Comparison → String
  | equal => "="
  | different => "!="
  | greater => ">"
  | greaterEqual => ">="
  | less => "<"
  | lessEqual => "<="

/-- The comparison of a name. -/
def ofName? (s : String) : Option Comparison :=
  all.find? (·.name = s)

/-- What is said of a name that no comparison has. -/
def unknownMessage (s : String) : String :=
  s!"unknown comparison '{s}'"

/-- Does the value stand in the relation to the target? -/
def holds (c : Comparison) (value target : String) : Bool :=
  match c with
  | equal => value = target
  | different => value ≠ target
  | greater => compareValues value target = .gt
  | greaterEqual => compareValues value target ≠ .lt
  | less => compareValues value target = .lt
  | lessEqual => compareValues value target ≠ .gt

/-- Every comparison is found by its name. -/
@[simp] theorem ofName?_name (c : Comparison) : ofName? c.name = some c := by
  cases c <;> simp [ofName?, all, name]

/-- A comparison is found by its own name only. -/
theorem ofName?_eq_some_iff {s : String} {c : Comparison} : ofName? s = some c ↔ s = c.name := by
  constructor
  · intro found
    have named := List.find?_some found
    exact (of_decide_eq_true named).symm
  · rintro rfl
    exact ofName?_name c

end Comparison

end Discovery
