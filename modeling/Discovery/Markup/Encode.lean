import Discovery.Markup.Character
import Discovery.Text.Quoted
import Discovery.Tree.Basic

/-!
# Writing a tree as markup

An element is written as its start tag with the attributes in the order of their keys, its contents
in order, its closing tag and a line feed; one without contents as a self-closing tag and a line
feed. A document is the header line followed by the element of its root.

`render` writes any tree. Two things cannot be written so that they would be read back: a node
without a name and a character that may not stand in a document. `obstacle?` finds the first of them
in the order of writing, and `encode` is `render` where there is none.
-/

namespace Discovery

namespace Markup

/-- Why a tree cannot be written. -/
inductive EncodeError where
  /-- A node has no name. -/
  | unnamedNode
  /-- A character of a text or of an attribute value may not stand in a document. -/
  | invalidChar (c : Char)
deriving Repr, DecidableEq

def EncodeError.message : EncodeError → String
  | .unnamedNode => "cannot encode a node without a name"
  | .invalidChar c => s!"character {Text.quotedChar c} cannot be represented in markup"

/-- The header line, without its end. -/
def header : String := "<?xml version=\"1.0\"?>"

/-! ## Escaping -/

/-- A character of a text, as it is written: the three that markup is made of by their names. -/
def escapeInText (c : Char) : List Char :=
  if c = '&' then "&amp;".toList
  else if c = '<' then "&lt;".toList
  else if c = '>' then "&gt;".toList
  else [c]

/-- A character of an attribute value, as it is written: the double quote by its name too. -/
def escapeInValue (c : Char) : List Char :=
  if c = '\x22' then "&quot;".toList else escapeInText c

/-! ## What stands in the way -/

/-- The first character of a text that may not stand in a document. -/
def invalidChar? (words : String) : Option EncodeError :=
  (words.toList.find? fun c => !isMarkupChar c).map .invalidChar

/-- The first invalid character among attribute values. -/
def invalidValue? (attributes : Attributes) : Option EncodeError :=
  attributes.entries.findSome? fun (_, value) => invalidChar? value

end Markup

namespace Tree

open Markup

mutual

/-- What first keeps the tree from being written, in the order of writing. -/
def obstacle? : Tree → Option EncodeError
  | .node name attributes contents =>
    if name.isEmpty then some .unnamedNode
    else (invalidValue? attributes).or (contentsObstacle? contents)

/-- What first keeps contents from being written. -/
def contentsObstacle? : List Content → Option EncodeError
  | [] => none
  | .text words :: rest => (invalidChar? words).or (contentsObstacle? rest)
  | .child tree :: rest => (obstacle? tree).or (contentsObstacle? rest)

end

/-! ## Writing -/

/-- An attribute, after a blank. -/
def renderAttribute (key value : String) : List Char :=
  ' ' :: key.toList ++ ['=', '\x22'] ++ value.toList.flatMap escapeInValue ++ ['\x22']

/-- The attributes in the order of their keys. -/
def renderAttributes (attributes : Attributes) : List Char :=
  attributes.entries.flatMap fun (key, value) => renderAttribute key value

mutual

/-- The element of a tree. -/
def render : Tree → List Char
  | .node name attributes [] =>
    '<' :: name.toList ++ renderAttributes attributes ++ ['/', '>', '\n']
  | .node name attributes (first :: rest) =>
    '<' :: name.toList ++ renderAttributes attributes ++ ['>'] ++
      renderContents (first :: rest) ++ ['<', '/'] ++ name.toList ++ ['>', '\n']

def renderContents : List Content → List Char
  | [] => []
  | .text words :: rest => words.toList.flatMap escapeInText ++ renderContents rest
  | .child tree :: rest => render tree ++ renderContents rest

end

/-- The element of a tree, if it can be written. -/
def encode (tree : Tree) : Except EncodeError String :=
  match tree.obstacle? with
  | some obstacle => .error obstacle
  | none => .ok (String.ofList tree.render)

/-- The document of a tree, if it can be written: the header line, then the element. -/
def encodeDocument (tree : Tree) : Except EncodeError String :=
  tree.encode.map fun element => Markup.header ++ "\n" ++ element

end Tree

end Discovery
