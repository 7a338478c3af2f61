import Discovery.Message.Basic

/-!
# Replies of the service

A reply says how a request went, and carries a text if there is one to carry. The statuses are those
of HTTP that the service gives; what refuses a request of its own accord says nothing more.
-/

namespace Discovery.Service

/-- How a request went. -/
inductive Status where
  | ok
  | badRequest
  | notFound
  | methodNotAllowed
  | conflict
  | contentTooLarge
  | internalError
deriving Repr, DecidableEq

namespace Status

def code : Status → Nat
  | ok => 200
  | badRequest => 400
  | notFound => 404
  | methodNotAllowed => 405
  | conflict => 409
  | contentTooLarge => 413
  | internalError => 500

/-- What the status is called. -/
def reason : Status → String
  | ok => "OK"
  | badRequest => "Bad Request"
  | notFound => "Not Found"
  | methodNotAllowed => "Method Not Allowed"
  | conflict => "Conflict"
  | contentTooLarge => "Payload Too Large"
  | internalError => "Internal Server Error"

def text (status : Status) : String :=
  s!"{status.code} {status.reason}"

def isSuccess (status : Status) : Bool :=
  200 ≤ status.code && status.code < 300

/-- A request succeeds with one status only. -/
theorem isSuccess_iff {status : Status} : status.isSuccess = true ↔ status = ok := by
  cases status <;> simp [isSuccess, code]

end Status

/-- What kind of text a reply carries. -/
inductive ContentType where
  | markup
  | json
  | plainText
deriving Repr, DecidableEq

def ContentType.name : ContentType → String
  | markup => "application/xml"
  | json => "application/json"
  | plainText => "text/plain; charset=utf-8"

/-- An answer to a request. -/
structure Reply where
  status : Status
  contentType : Option ContentType
  body : String
deriving Repr, DecidableEq

namespace Reply

/-- A reply that is its status and nothing more. -/
def bare (status : Status) : Reply :=
  ⟨status, none, ""⟩

/-- A reply that carries a message; one that cannot be written is the service's own failure. -/
def ofMessage {α : Type} [Message α] (message : α) : Reply :=
  match Message.toWire message with
  | .ok wire => ⟨.ok, some .markup, wire⟩
  | .error _ => bare .internalError

/-- The reply without its text. -/
def withoutBody (reply : Reply) : Reply :=
  { reply with body := "" }

end Reply

end Discovery.Service
