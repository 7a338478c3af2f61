import Discovery.Query.Basic
import Discovery.Text.Cut
import Discovery.Text.WhiteSpace

/-!
# Predicates

The short form in which a person writes a query: predicates such as `port>=1520`, each the name of a
facet, an operator and a target. White space around the name and around the target is dropped.

The operators are tried in a fixed order, those of two characters first, and the first that occurs
anywhere in the text divides it. Several predicates make up one query: all of them have to match or
any of them, and the whole may be negated.
-/

namespace Discovery.Predicate

/-- Why predicates are no query. -/
inductive PredicateError where
  /-- No facet has the name before the operator. -/
  | unknownFacet (name : String)
  /-- No operator occurs in the text. -/
  | noOperator (raw : String)
  /-- There are no predicates. -/
  | noPredicates
deriving Repr, DecidableEq

def PredicateError.message : PredicateError → String
  | .unknownFacet name => Facet.unknownMessage name
  | .noOperator raw => s!"'{raw}' is not of the form <kind><op><value>"
  | .noPredicates => "at least one predicate is required"

/-- The comparisons in the order in which their operators are tried. -/
def operators : List Comparison :=
  [.different, .greaterEqual, .lessEqual, .equal, .greater, .less]

/-- The first of the comparisons whose operator occurs in a text, and the parts that it divides. -/
def divide? (raw : List Char) : List Comparison → Option (Comparison × List Char × List Char)
  | [] => none
  | comparison :: others =>
    match Text.cutAt comparison.symbol.toList raw with
    | some (before, after) => some (comparison, before, after)
    | none => divide? raw others

/-- The query that a predicate stands for. -/
def parse (raw : String) : Except PredicateError Query :=
  match divide? raw.toList operators with
  | none => .error (.noOperator raw)
  | some (comparison, before, after) =>
    let name := String.ofList (Text.trimChars before)
    match Facet.ofName? name with
    | none => .error (.unknownFacet name)
    | some facet => .ok (.item facet comparison (String.ofList (Text.trimChars after)))

/-- Reads further predicates onto the query read so far. -/
def parseOnto (join : Query → Query → Query) (query : Query) :
    List String → Except PredicateError Query
  | [] => .ok query
  | raw :: others =>
    match parse raw with
    | .error error => .error error
    | .ok item => parseOnto join (join query item) others

/-- The query that predicates stand for: all of them or any of them, or the negation of that. -/
def toQuery (predicates : List String) (any negated : Bool) : Except PredicateError Query :=
  match predicates with
  | [] => .error .noPredicates
  | first :: others =>
    match parse first with
    | .error error => .error error
    | .ok query =>
      -- the negation is that of all the predicates together
      (parseOnto (if any then .or else .and) query others).map fun combined =>
        if negated then .not combined else combined

end Discovery.Predicate
