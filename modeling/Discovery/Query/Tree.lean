import Discovery.Query.Basic
import Discovery.Tree.Search

/-!
# Queries as trees

A leaf is a `queryItem` with its facet and its comparison as attributes and the target as its text;
an `and` or an `or` holds its two operands, a `not` its one.

Reading takes the operands in order and looks at no more of them than the expression has. There is no
reading of any other name, nor of an operand that is missing or cannot be read.
-/

namespace Discovery.Query

def toTree : Query → Tree
  | .item facet comparison target =>
    (((Tree.named "queryItem").setAttribute "kind" facet.name).setAttribute
      "comparison" comparison.name).pushText target
  | .and left right => ((Tree.named "and").pushChild left.toTree).pushChild right.toTree
  | .or left right => ((Tree.named "or").pushChild left.toTree).pushChild right.toTree
  | .not query => (Tree.named "not").pushChild query.toTree

/-- The target of a leaf: the text it begins with, or the empty text if it holds nothing. -/
def target? : List Content → Option String
  | [] => some ""
  | .text words :: _ => some words
  | .child _ :: _ => none

/-- The leaf that attributes and contents describe. -/
def itemOfTree? (attributes : Attributes) (contents : List Content) : Option Query := do
  let facet ← (attributes.get? "kind").bind Facet.ofName?
  let comparison ← (attributes.get? "comparison").bind Comparison.ofName?
  let target ← target? contents
  return .item facet comparison target

mutual

/-- The query that a tree describes. -/
def ofTree? : Tree → Option Query
  | .node name attributes contents =>
    if name = "queryItem" then itemOfTree? attributes contents
    else if name = "and" then
      match operands contents with
      -- what stands behind the second operand is not looked at, even if it is no query
      | some left :: some right :: _ => some (.and left right)
      | _ => none
    else if name = "or" then
      match operands contents with
      | some left :: some right :: _ => some (.or left right)
      | _ => none
    else if name = "not" then
      match operands contents with
      | some query :: _ => some (.not query)
      | _ => none
    else none

/-- The queries that the trees among contents describe, in order. -/
def operands : List Content → List (Option Query)
  | [] => []
  | .text _ :: rest => operands rest
  | .child tree :: rest => ofTree? tree :: operands rest

end

end Discovery.Query
