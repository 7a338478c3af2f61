import Discovery.Text.Quoted
import Discovery.Tree.Basic

/-!
# Trees in brackets

The form in which a tree is shown to people: the name, the attributes in braces and the contents,
all between brackets, with texts and attribute values quoted. A tree of the name `port` with one
attribute and a text in it reads `[port {kind="tcp"} "2000"]`.
-/

namespace Discovery.Tree

/-- The attributes in braces, after a blank; nothing if there are none. -/
def displayAttributes (attributes : Attributes) : String :=
  if attributes.isEmpty then ""
  else
    let shown := attributes.entries.map fun (key, value) => key ++ "=" ++ Text.quoted value
    " \x7b" ++ ", ".intercalate shown ++ "\x7d"

mutual

/-- A tree between brackets. -/
def display : Tree → String
  | .node name attributes contents =>
    "[" ++ name ++ displayAttributes attributes ++ displayContents contents ++ "]"

/-- Contents one after another, a blank before each. -/
def displayContents : List Content → String
  | [] => ""
  | .text words :: rest => " " ++ Text.quoted words ++ displayContents rest
  | .child tree :: rest => " " ++ display tree ++ displayContents rest

end

end Discovery.Tree
