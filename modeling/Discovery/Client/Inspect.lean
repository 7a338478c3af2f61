import Discovery.Message.Error

/-!
# Errors laid open

The form in which an error is shown that ends a command: by the name of its cause, with what belongs
to it in parentheses, or in braces where the parts have names. Texts and characters are quoted.
-/

namespace Discovery.Client

/-- A cause with its named parts, in braces. -/
def inBraces (cause : String) (parts : List (String × String)) : String :=
  cause ++ " \x7b " ++ String.intercalate ", " (parts.map fun (name, value) => name ++ ": " ++ value)
    ++ " \x7d"

/-- A cause with what it is about, in parentheses. -/
def inParentheses (cause about : String) : String :=
  cause ++ "(" ++ about ++ ")"

/-- An error of building a tree, laid open. -/
def inspectTree : TreeError → String
  | .nothingOpen => "NothingOpen"
  | .rootClosed name => inParentheses "RootClosed" (Text.quoted name)
  | .unclosed depth => inParentheses "Unclosed" (toString depth)
  | .nothingBuilt => "Empty"

/-- An error of reading a document, laid open. -/
def inspectDecode : Markup.DecodeError → String
  | .notUtf8 =>
    inParentheses "Io" (inBraces "Error"
      [("kind", "InvalidData"), ("message", Text.quoted "stream did not contain valid UTF-8")])
  | .malformed offset what =>
    inBraces "Syntax" [("offset", toString offset), ("message", Text.quoted what.message)]
  | .mismatched expected found =>
    inBraces "Mismatched" [("expected", Text.quoted expected), ("found", Text.quoted found)]
  | .unknownReference name => inParentheses "Entity" (Text.quoted name)
  | .tree error => inParentheses "Tree" (inspectTree error)

/-- An error of writing a document, laid open. -/
def inspectEncode : Markup.EncodeError → String
  | .unnamedNode => "UnnamedNode"
  | .invalidChar c => inParentheses "InvalidChar" (Text.quotedChar c)

/-- An error of a message, laid open. -/
def inspectMessage : MessageError → String
  | .unexpectedRoot expected found =>
    inBraces "UnexpectedRoot" [("expected", Text.quoted expected), ("found", Text.quoted found)]
  | .missing what => inParentheses "Missing" (Text.quoted what)
  | .invalid field value =>
    inBraces "Invalid" [("field", Text.quoted field), ("value", Text.quoted value)]
  | .query name => inParentheses "Query" (Text.quoted name)
  | .decode error => inParentheses "Decode" (inspectDecode error)
  | .encode error => inParentheses "Encode" (inspectEncode error)

end Discovery.Client
