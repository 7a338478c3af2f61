import Discovery.Service.Endpoint
import Discovery.Service.Target
import Discovery.Text.Utf8

/-!
# From requests to endpoints

A request names a method and a target and carries bytes. What is asked for by an unknown path is not
found, and a known path allows one method: the listing can be had, with or without its text, and
messages can be sent to the other endpoints. A question for the options of any path is granted.

The bytes of a message are read as a text, which may be two megabytes long.

## What is assumed

The endpoints and their methods are registered with a web framework, which decides on a request before any
endpoint sees it. What is assumed of the framework is its documented behaviour:

* a path is matched as a whole and as it is spelled; another one is answered with 404 and no text;
* a known path with a method that it is not registered for is answered with 405 and no text, but one that
  is registered for `GET` answers to `HEAD` as well, without the body;
* a body that is taken as a text may have 2 MiB, its default limit: a longer one is answered with 413, one
  that is not UTF-8 with 400, each with the framework's own text;
* the layer for requests across origins, which is registered for every path, answers `OPTIONS` with 200
  itself.
-/

namespace Discovery

namespace Service

/-- A request to the service. -/
structure Request where
  method : String
  /-- What it is directed at: a path, or a whole address. -/
  target : String
  body : List UInt8
deriving Repr, DecidableEq

namespace Request

/-- A request that carries a text. -/
def ofText (method target text : String) : Request :=
  ⟨method, target, text.toUTF8.toList⟩

def path (request : Request) : String :=
  pathOf request.target

end Request

/-- How many bytes a message may have. -/
def maxBodyBytes : Nat := 2 * 1024 * 1024

/-- The reply to a body that is too long. -/
def Reply.tooLong : Reply :=
  ⟨.contentTooLarge, some .plainText,
    "Failed to buffer the request body: length limit exceeded"⟩

/-- The reply to a body that is no text. -/
def Reply.notText (fault : Text.Utf8Fault) : Reply :=
  ⟨.badRequest, some .plainText, s!"Request body didn't contain valid UTF-8: {fault.message}"⟩

/-- The text of a body, or the reply that refuses it. -/
def readBody (body : List UInt8) : Except Reply String :=
  if maxBodyBytes < body.length then .error .tooLong
  else (Text.readUtf8 body).mapError .notText

end Service

open Service

namespace Discoverer

/-- The reply to bytes that are sent to an endpoint. -/
def receive (d : Discoverer) (endpoint : Endpoint) (body : List UInt8) : Reply × Discoverer :=
  match readBody body with
  | .error refusal => (refusal, d)
  | .ok text => d.answer endpoint text

/-- The reply to a request, and the discoverer after it. -/
def serve (d : Discoverer) (request : Request) : Reply × Discoverer :=
  if request.method = "OPTIONS" then (.bare .ok, d)
  else
    match Endpoint.ofPath? request.path with
    | none => (.bare .notFound, d)
    | some .leases =>
      if request.method = "GET" then d.answer .leases ""
      -- as if the listing were asked for, but without its text
      else if request.method = "HEAD" then
        let (reply, after) := d.answer .leases ""
        (reply.withoutBody, after)
      else (.bare .methodNotAllowed, d)
    | some endpoint =>
      if request.method = "POST" then d.receive endpoint request.body
      else (.bare .methodNotAllowed, d)

end Discoverer

end Discovery
