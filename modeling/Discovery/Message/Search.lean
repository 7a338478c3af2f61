import Discovery.Component.Basic
import Discovery.Message.Basic
import Discovery.Query.Tree

/-!
# Searches

A search asks with a query and is answered with the components that match, each with its index and
its id.
-/

namespace Discovery

/-- A question for components. -/
structure QueryRequest where
  query : Query
deriving Repr, DecidableEq

namespace QueryRequest

def toTree (request : QueryRequest) : Tree :=
  (Tree.named "query").pushChild request.query.toTree

/-- Reads a request from a tree: the query is its first part. -/
def ofTree (tree : Tree) : Except MessageError QueryRequest := do
  Message.expectRoot "query" tree
  match tree.children with
  | [] => .error (.missing "query expression")
  | expression :: _ =>
    match Query.ofTree? expression with
    | none => .error (.query expression.name)
    | some query => .ok ⟨query⟩

end QueryRequest

instance : Message QueryRequest := ⟨QueryRequest.toTree, QueryRequest.ofTree⟩

/-- A component that was found. -/
structure Match where
  index : ComponentIndex
  id : String
deriving Repr, DecidableEq

namespace Match

def toTree (found : Match) : Tree :=
  (Tree.ofText "component" found.id).setAttribute "index" (toString found.index.toNat)

/-- Reads a match from a tree; without a text its id is empty. -/
def ofTree (tree : Tree) : Except MessageError Match := do
  let index ← Message.readAttribute ComponentIndex.read "index" tree
  return ⟨index, tree.leadingText?.getD ""⟩

end Match

/-- The answer to a search. -/
structure QueryReply where
  found : List Match
deriving Repr, DecidableEq

namespace QueryReply

def toTree (reply : QueryReply) : Tree :=
  reply.found.foldl (fun tree found => tree.pushChild found.toTree) (Tree.named "queryReply")

/-- Reads a reply from a tree: the matches are its parts of that name. -/
def ofTree (tree : Tree) : Except MessageError QueryReply := do
  Message.expectRoot "queryReply" tree
  let found ← (tree.children.filter (·.name = "component")).mapM Match.ofTree
  return ⟨found⟩

end QueryReply

instance : Message QueryReply := ⟨QueryReply.toTree, QueryReply.ofTree⟩

end Discovery
