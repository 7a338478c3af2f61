import Discovery.Text.Quoted

/-!
# Faults of a document

What can be wrong with the form of a document. A fault keeps the text from its place on, so that its
offset in the whole document is the length of what was read before.
-/

namespace Discovery.Markup

/-- The parts of a document that a mark has to end. -/
inductive Enclosed where
  | instruction
  | comment
  | cdata
  | declaration
  | attributeValue
deriving Repr, DecidableEq

/-- What the part is called. -/
def Enclosed.words : Enclosed → String
  | .instruction => "processing instruction"
  | .comment => "comment"
  | .cdata => "CDATA section"
  | .declaration => "declaration"
  | .attributeValue => "attribute value"

/-- What is wrong with the form of a document. -/
inductive Malformation where
  | unterminated (part : Enclosed)
  | unterminatedTag (name : String)
  | unterminatedClosingTag (name : String)
  | expectedName
  | missingValue (key : String)
  | unquotedValue (key : String)
  | lessThanInValue (key : String)
  | duplicateAttribute (key : String)
  | missingSpaceAfter (key : String)
  | invalidCharacter (c : Char)
deriving Repr, DecidableEq

def Malformation.message : Malformation → String
  | .unterminated part => s!"unterminated {part.words}"
  | .unterminatedTag name => s!"unterminated tag <{name}>"
  | .unterminatedClosingTag name => s!"unterminated closing tag </{name}>"
  | .expectedName => "expected a name"
  | .missingValue key => s!"attribute '{key}' has no value"
  | .unquotedValue key => s!"attribute '{key}' value is not quoted"
  | .lessThanInValue key => s!"'<' in value of attribute '{key}'"
  | .duplicateAttribute key => s!"duplicate attribute '{key}'"
  | .missingSpaceAfter key => s!"missing whitespace after attribute '{key}'"
  | .invalidCharacter c => s!"invalid character {Text.quotedChar c}"

/-- Why reading a document stops. -/
inductive Fault where
  /-- The form is wrong; the text from there on is kept. -/
  | malformed (what : Malformation) (rest : List Char)
  /-- A reference means nothing. -/
  | unknownReference (name : String)
deriving Repr, DecidableEq

end Discovery.Markup
