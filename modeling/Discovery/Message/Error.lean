import Discovery.Markup.Decode
import Discovery.Markup.Encode

/-!
# Errors of messages

Why a text or a tree is not a message of the kind that is expected, or a message cannot be written.
-/

namespace Discovery

/-- Why a message cannot be read or written. -/
inductive MessageError where
  /-- The root has another name. -/
  | unexpectedRoot (expected found : String)
  /-- A required part is not there. -/
  | missing (what : String)
  /-- An attribute or a part has a value that cannot be read. -/
  | invalid (field value : String)
  /-- The expression of the given name is no query. -/
  | query (name : String)
  | decode (error : Markup.DecodeError)
  | encode (error : Markup.EncodeError)
deriving Repr, DecidableEq

def MessageError.message : MessageError → String
  | .unexpectedRoot expected found => s!"expected <{expected}> message, found <{found}>"
  | .missing what => s!"missing {what}"
  | .invalid field value => s!"invalid {field}: {Text.quoted value}"
  | .query name => s!"unrecognized query expression <{name}>"
  | .decode error => error.message
  | .encode error => error.message

end Discovery
