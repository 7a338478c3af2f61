import Discovery.Tree.Basic

/-!
# Looking things up in a tree

Two kinds of search. `child?` and `nthChild?` look at the trees directly below the root; `find?` and
`hasDescendant` go down to any depth, `find?` in pre-order and from the root itself, `hasDescendant`
among the direct children before it descends.
-/

namespace Discovery.Tree

def attribute? (tree : Tree) (key : String) : Option String :=
  tree.attributes.get? key

/-- The trees directly below the root, in order. -/
def children (tree : Tree) : List Tree :=
  tree.contents.filterMap Content.child?

def countChildren (tree : Tree) : Nat :=
  tree.children.length

/-- The first tree of the given name directly below the root. -/
def child? (tree : Tree) (name : String) : Option Tree :=
  tree.children.find? (·.name = name)

/-- The `n`-th tree of the given name directly below the root, counted from one. -/
def nthChild? (tree : Tree) (name : String) : Nat → Option Tree
  | 0 => none
  | n + 1 => (tree.children.filter (·.name = name))[n]?

/-- The text that a tree begins with. -/
def leadingText? (tree : Tree) : Option String :=
  tree.contents.head?.bind Content.text?

/-! ## Searches of any depth -/

mutual

/-- The first tree of the given name in pre-order, the root included. -/
def search (name : String) : Tree → Option Tree
  | .node root attributes contents =>
    if root = name then some (.node root attributes contents) else searchContents name contents

/-- The first tree of the given name in pre-order among contents. -/
def searchContents (name : String) : List Content → Option Tree
  | [] => none
  | .text _ :: rest => searchContents name rest
  | .child tree :: rest =>
    match search name tree with
    | some found => some found
    | none => searchContents name rest

end

/-- The first tree of the given name in pre-order, the root included; none for the empty name. -/
def find? (tree : Tree) (name : String) : Option Tree :=
  if name.isEmpty then none else search name tree

mutual

/-- Does a tree below the root have the name? -/
def hasDescendant (name : String) : Tree → Bool
  | .node _ _ contents =>
    (contents.filterMap Content.child?).any (·.name = name) || anyHasDescendant name contents

/-- Does a tree below one of the contents' trees have the name? -/
def anyHasDescendant (name : String) : List Content → Bool
  | [] => false
  | .text _ :: rest => anyHasDescendant name rest
  | .child tree :: rest => hasDescendant name tree || anyHasDescendant name rest

end

/-- The first content of the first tree of the given name in pre-order. -/
def firstContent? (tree : Tree) (name : String) : Option Content :=
  (tree.find? name).bind (·.contents.head?)

/-- The text that the first tree of the given name begins with. -/
def text? (tree : Tree) (name : String) : Option String :=
  (tree.firstContent? name).bind Content.text?

end Discovery.Tree
