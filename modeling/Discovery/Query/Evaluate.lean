import Discovery.Query.Basic
import Discovery.Query.Index
import Discovery.Query.MatchArray

/-!
# Evaluating queries

A query is evaluated in two ways: `Query.evaluateAll` finds the components of a whole population
that match, through the index tables of a `DataModel`; `Query.evaluateOne` asks one component, by its
description.

A leaf of `evaluateAll` marks the components that its table lists: under the target itself if the
comparison is equality, and otherwise under every value that stands in the relation to the target.
-/

namespace Discovery

/-- What queries over a population are evaluated against. -/
structure DataModel where
  /-- The indexes of the population. -/
  population : List ComponentIndex
  /-- The tables of the facets that have one. -/
  tables : IndexTables
deriving Repr, DecidableEq

namespace Query

/-- Marks the components that a table lists under values in the given relation to the target. -/
def markTable (comparison : Comparison) (target : String) (table : IndexTable)
    (a : MatchArray) : MatchArray :=
  match comparison with
  -- equality alone can be looked up
  | .equal =>
    match table.get? target with
    | some indexes => a.markAll indexes.keys
    | none => a
  | comparison =>
    table.entries.foldl
      (fun a entry => if comparison.holds entry.1 target then a.markAll entry.2.keys else a) a

/-- Which components of the population match the query. -/
def evaluateAll (model : DataModel) : Query → MatchArray
  | .item facet comparison target =>
    let unmatched := MatchArray.ofIndexes model.population
    match model.tables.get? facet with
    | some table => markTable comparison target table unmatched
    | none => unmatched
  | .and left right => (evaluateAll model left).and (evaluateAll model right)
  | .or left right => (evaluateAll model left).or (evaluateAll model right)
  | .not query => (evaluateAll model query).not

/-- Does the component match the query? -/
def evaluateOne (component : Component) : Query → Bool
  | .item facet comparison target =>
    (component.valuesOf facet).any fun value => comparison.holds value target
  | .and left right => evaluateOne component left && evaluateOne component right
  | .or left right => evaluateOne component left || evaluateOne component right
  | .not query => !evaluateOne component query

end Query

end Discovery
