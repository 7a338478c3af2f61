import Discovery.Component.Comparison
import Discovery.Component.Facet

/-!
# Queries

A query is a search expression over components: a comparison of the values of one facet with a
target, or a conjunction, disjunction or negation of queries.
-/

namespace Discovery

/-- A search expression. -/
inductive Query where
  /-- Some value of the facet stands in the relation to the target. -/
  | item (facet : Facet) (comparison : Comparison) (target : String)
  | and (left right : Query)
  | or (left right : Query)
  | not (query : Query)
deriving Repr, DecidableEq

end Discovery
