import Discovery.Markup.Event
import Discovery.Text.Utf8
import Discovery.Tree.Builder

/-!
# Reading a tree from a document

The events of a document drive a builder: a start tag opens an element, and closes it at once if it
is its own closing tag; a closing tag has to name the element that is open; a text is added to it.
Reading stops at the first event that the builder refuses, or at the first fault of the document,
whichever comes first.
-/

namespace Discovery

namespace Markup

/-- Why a document is not the markup of a tree. -/
inductive DecodeError where
  /-- The bytes are no text. -/
  | notUtf8
  /-- The form is wrong, at an offset in bytes. -/
  | malformed (offset : Nat) (what : Malformation)
  /-- A closing tag names another element than the open one. -/
  | mismatched (expected found : String)
  /-- A reference means nothing. -/
  | unknownReference (name : String)
  /-- The tags do not make up one tree. -/
  | tree (error : TreeError)
deriving Repr, DecidableEq

def DecodeError.message : DecodeError → String
  | .notUtf8 => "IO error: stream did not contain valid UTF-8"
  | .malformed offset what => s!"malformed markup at byte {offset}: {what.message}"
  | .mismatched expected found =>
    s!"closing tag </{found}> does not match open element <{expected}>"
  | .unknownReference name => s!"unknown entity reference &{name};"
  | .tree error => error.message

/-- How many bytes characters take in UTF-8. -/
def byteLength (cs : List Char) : Nat :=
  cs.foldl (fun n c => n + c.utf8Size) 0

/-- A fault as an error of the whole document. -/
def Fault.inDocument (document : List Char) : Fault → DecodeError
  | .malformed what rest => .malformed (byteLength document - byteLength rest) what
  | .unknownReference name => .unknownReference name

end Markup

open Markup

/-- The builder after an event. -/
def Builder.take (b : Builder) : Event → Except DecodeError Builder
  | .startTag tag =>
    match b.openElement tag.name tag.attributes with
    | .error error => .error (.tree error)
    | .ok opened =>
      if tag.selfClosing then
        match opened.closeElement with
        | .error error => .error (.tree error)
        | .ok (_, closed) => .ok closed
      else .ok opened
  | .endTag name =>
    -- where nothing is open the name that would be expected is empty
    if b.current?.getD "" = name then
      match b.closeElement with
      | .error error => .error (.tree error)
      | .ok (_, closed) => .ok closed
    else .error (.mismatched (b.current?.getD "") name)
  | .text words =>
    match b.addText words with
    | .error error => .error (.tree error)
    | .ok b => .ok b

/-- The builder after what a cursor over the document says. -/
def Builder.takeAll (document : List Char) (b : Builder) :
    List (Except Fault Event) → Except DecodeError Builder
  | [] => .ok b
  | .error fault :: _ => .error (fault.inDocument document)
  | .ok event :: later =>
    match b.take event with
    | .error error => .error error
    | .ok b => takeAll document b later

namespace Tree

/-- The tree of a document. -/
def decodeChars (document : List Char) : Except DecodeError Tree :=
  match Builder.new.takeAll document (Cursor.start document).drain with
  | .error error => .error error
  | .ok b =>
    match b.finish with
    | .error error => .error (.tree error)
    | .ok tree => .ok tree

def decode (document : String) : Except DecodeError Tree :=
  decodeChars document.toList

/-- The tree of a document in UTF-8. -/
def decodeBytes (document : List UInt8) : Except DecodeError Tree :=
  match Text.readUtf8 document with
  | .ok document => decode document
  | .error _ => .error .notUtf8

end Tree

end Discovery
