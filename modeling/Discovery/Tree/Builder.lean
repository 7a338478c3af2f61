import Discovery.Tree.Basic

/-!
# Building a tree step by step

A `Builder` holds the elements that are open, the innermost first, and the finished root once the
outermost element has been closed. Opening puts an element on top, a text goes to the element on
top, closing hands the element on top to the one below it.

A step that cannot be done is an error and leaves the builder as it was: nothing is opened after the
root is complete, and nothing is added to or closed while no element is open.
-/

namespace Discovery

/-- Why a step of building cannot be done, or what has been built is no tree. -/
inductive TreeError where
  /-- A text or a closing without an open element. -/
  | nothingOpen
  /-- An element of the given name after the root. -/
  | rootClosed (name : String)
  /-- So many elements have not been closed. -/
  | unclosed (depth : Nat)
  /-- No element was opened. -/
  | nothingBuilt
deriving Repr, DecidableEq

def TreeError.message : TreeError → String
  | .nothingOpen => "no element is open"
  | .rootClosed name => s!"document root is already closed, cannot add <{name}>"
  | .unclosed depth => s!"{depth} element(s) still open"
  | .nothingBuilt => "no element was built"

/-- A tree under construction. -/
structure Builder where
  /-- The open elements, the innermost first. -/
  stack : List Tree
  /-- The tree, once its outermost element is closed. -/
  root : Option Tree
deriving DecidableEq

namespace Builder

def new : Builder := ⟨[], none⟩

def openElement (b : Builder) (name : String) (attributes : Attributes) :
    Except TreeError Builder :=
  if b.root.isSome then .error (.rootClosed name)
  else .ok { b with stack := .node name attributes [] :: b.stack }

/-- Adds a text to the innermost open element. -/
def addText (b : Builder) (words : String) : Except TreeError Builder :=
  match b.stack with
  | [] => .error .nothingOpen
  | top :: below => .ok { b with stack := top.pushText words :: below }

/-- Closes the innermost open element and names it. -/
def closeElement (b : Builder) : Except TreeError (String × Builder) :=
  match b.stack with
  | [] => .error .nothingOpen
  | [top] => .ok (top.name, { stack := [], root := some top })
  | top :: parent :: below =>
    .ok (top.name, { b with stack := parent.pushChild top :: below })

/-- The name of the innermost open element. -/
def current? (b : Builder) : Option String :=
  b.stack.head?.map (·.name)

def depth (b : Builder) : Nat :=
  b.stack.length

/-- Has the outermost element been closed? -/
def isComplete (b : Builder) : Bool :=
  b.root.isSome

def finish (b : Builder) : Except TreeError Tree :=
  if b.depth = 0 then
    match b.root with
    | some tree => .ok tree
    | none => .error .nothingBuilt
  else .error (.unclosed b.depth)

end Builder

end Discovery
