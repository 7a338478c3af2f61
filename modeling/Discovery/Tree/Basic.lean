import Discovery.SortedMap

/-!
# Message trees

Every message is a tree: a name, attributes, and contents in order, each of which is a text or a
tree below. This module has the type, its decidable equality, and the ways in which a tree grows.

Two texts never stand side by side, because on the wire they would be read back as one, and no text
is empty, because nothing would be written for it. `appendText` keeps both: it joins a text to one
that ends the contents, and leaves out the empty text.
-/

namespace Discovery

/-- The attributes of a tree, in the order of their keys. -/
abbrev Attributes := SortedMap String String

mutual

/-- A message or a part of one. -/
inductive Tree where
  | node (name : String) (attributes : Attributes) (contents : List Content)

/-- What stands inside a tree: text, or a tree below. -/
inductive Content where
  | text (words : String)
  | child (tree : Tree)

end

namespace Content

def text? : Content → Option String
  | .text words => some words
  | .child _ => none

def child? : Content → Option Tree
  | .text _ => none
  | .child tree => some tree

/-- The contents with a text after them: joined to a text that ends them, left out if empty. -/
def appendText (words : String) : List Content → List Content
  | [] => if words.isEmpty then [] else [.text words]
  | [.text before] => [.text (before ++ words)]
  | first :: rest => first :: appendText words rest

/-- The contents with one more after them. -/
def append (contents : List Content) : Content → List Content
  | .text words => appendText words contents
  | .child tree => contents ++ [.child tree]

end Content

namespace Tree

def name : Tree → String
  | .node name _ _ => name

def attributes : Tree → Attributes
  | .node _ attributes _ => attributes

/-- The texts and trees below the root, in order. -/
def contents : Tree → List Content
  | .node _ _ contents => contents

/-- The tree of the given name with nothing in it. -/
def named (name : String) : Tree :=
  .node name .empty []

instance : Inhabited Tree := ⟨named ""⟩

def push (tree : Tree) (content : Content) : Tree :=
  .node tree.name tree.attributes (Content.append tree.contents content)

def pushText (tree : Tree) (words : String) : Tree :=
  tree.push (.text words)

def pushChild (tree child : Tree) : Tree :=
  tree.push (.child child)

/-- The tree with an attribute, in place of one of the same key. -/
def setAttribute (tree : Tree) (key value : String) : Tree :=
  .node tree.name (tree.attributes.insert key value) tree.contents

/-- The tree of the given name with one text in it. -/
def ofText (name words : String) : Tree :=
  (named name).pushText words

@[simp] theorem name_node (n : String) (a : Attributes) (cs : List Content) :
    (Tree.node n a cs).name = n := rfl

@[simp] theorem attributes_node (n : String) (a : Attributes) (cs : List Content) :
    (Tree.node n a cs).attributes = a := rfl

@[simp] theorem contents_node (n : String) (a : Attributes) (cs : List Content) :
    (Tree.node n a cs).contents = cs := rfl

/-! ## Equality -/

mutual

def decEq : (t t' : Tree) → Decidable (t = t')
  | .node name attributes contents, .node name' attributes' contents' =>
    if sameName : name = name' then
      if sameAttributes : attributes = attributes' then
        match decEqContents contents contents' with
        | .isTrue same => .isTrue (by rw [sameName, sameAttributes, same])
        | .isFalse differ => .isFalse (by simp_all)
      else .isFalse (by simp_all)
    else .isFalse (by simp_all)

def decEqContents : (cs cs' : List Content) → Decidable (cs = cs')
  | [], [] => .isTrue rfl
  | [], _ :: _ => .isFalse (by simp)
  | _ :: _, [] => .isFalse (by simp)
  | .text _ :: _, .child _ :: _ => .isFalse (by simp)
  | .child _ :: _, .text _ :: _ => .isFalse (by simp)
  | .text words :: rest, .text words' :: rest' =>
    if sameWords : words = words' then
      match decEqContents rest rest' with
      | .isTrue same => .isTrue (by rw [sameWords, same])
      | .isFalse differ => .isFalse (by simp_all)
    else .isFalse (by simp_all)
  | .child tree :: rest, .child tree' :: rest' =>
    match decEq tree tree' with
    | .isTrue sameTree =>
      match decEqContents rest rest' with
      | .isTrue same => .isTrue (by rw [sameTree, same])
      | .isFalse differ => .isFalse (by simp_all)
    | .isFalse differ => .isFalse (by simp_all)

end

instance : DecidableEq Tree := decEq

end Tree

instance : DecidableEq Content
  | .text words, .text words' =>
    if same : words = words' then .isTrue (by rw [same]) else .isFalse (by simp_all)
  | .text _, .child _ => .isFalse (by simp)
  | .child _, .text _ => .isFalse (by simp)
  | .child tree, .child tree' =>
    if same : tree = tree' then .isTrue (by rw [same]) else .isFalse (by simp_all)

end Discovery
