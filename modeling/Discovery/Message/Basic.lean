import Discovery.Message.Error
import Discovery.Text.Numeral
import Discovery.Tree.Search

/-!
# Messages

A kind of message has a form as a tree. Its text on the wire is the document of that tree, and a text
is read by decoding the tree and reading the message from it.

The readers of fields take what they need by name and pass over everything else in the tree.
-/

namespace Discovery

/-- A kind of message that has a form as a tree. -/
class Message (α : Type) where
  toTree : α → Tree
  ofTree : Tree → Except MessageError α

namespace Message

/-- The text of a message on the wire. -/
def toWire {α : Type} [Message α] (message : α) : Except MessageError String :=
  (toTree message).encodeDocument.mapError .encode

/-- Reads a message from its text on the wire. -/
def ofWire {α : Type} [Message α] (text : String) : Except MessageError α :=
  match Tree.decode text with
  | .error error => .error (.decode error)
  | .ok tree => ofTree tree

/-! ## Reading fields -/

/-- Accepts a tree of the expected name only. -/
def expectRoot (expected : String) (tree : Tree) : Except MessageError Unit :=
  if tree.name = expected then .ok () else .error (.unexpectedRoot expected tree.name)

/-- Reads a required attribute, white space around it dropped. An error shows it as it stands. -/
def readAttribute {α : Type} (read : String → Except Text.NumeralError α) (key : String)
    (tree : Tree) : Except MessageError α :=
  match tree.attribute? key with
  | none => .error (.missing key)
  | some raw => (read (Text.trim raw)).mapError fun _ => .invalid key raw

/-- Reads an attribute that may be missing. -/
def readOptionalAttribute {α : Type} (read : String → Except Text.NumeralError α) (key : String)
    (tree : Tree) : Except MessageError (Option α) :=
  match tree.attribute? key with
  | none => .ok none
  | some _ => (readAttribute read key tree).map some

/-- The text of the first part of the given name. -/
def partText? (tree : Tree) (name : String) : Option String :=
  (tree.child? name).bind Tree.leadingText?

/-- The texts of the items in the first part of the given name. -/
def listTexts (tree : Tree) (name item : String) : List String :=
  match tree.child? name with
  | none => []
  | some part => (part.children.filter (·.name = item)).filterMap Tree.leadingText?

/-! ## Writing fields -/

/-- A part that lists values as items. -/
def listTree (name item : String) (values : List String) : Tree :=
  values.foldl (fun part value => part.pushChild (Tree.ofText item value)) (Tree.named name)

/-- The tree with an attribute, if there is a value for it. -/
def setOptionalAttribute (tree : Tree) (key : String) : Option UInt32 → Tree
  | none => tree
  | some n => tree.setAttribute key (toString n.toNat)

end Message

end Discovery
