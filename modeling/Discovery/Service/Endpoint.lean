import Discovery.Message.Renewal
import Discovery.Message.Search
import Discovery.Registry.Listing
import Discovery.Service.Reply

/-!
# What the service does

Four endpoints take a message and one lists the leases. `answer` gives the reply of an endpoint to a
text, and the discoverer after it.

* A text that is no message of the kind that the endpoint takes is a bad request.
* An id that is in use, and a lease that is held already, are a conflict.
* A component that is not there is not found.
-/

namespace Discovery

namespace Service

/-- What the service can be asked to do. -/
inductive Endpoint where
  | register
  | heartbeat
  | deregister
  | query
  | leases
deriving Repr, DecidableEq

namespace Endpoint

def all : List Endpoint := [register, heartbeat, deregister, query, leases]

def path : Endpoint → String
  | register => "/register"
  | heartbeat => "/heartbeat"
  | deregister => "/deregister"
  | query => "/query"
  | leases => "/leases"

def ofPath? (path : String) : Option Endpoint :=
  all.find? (·.path = path)

/-- Every endpoint is found at its path. -/
@[simp] theorem ofPath?_path (endpoint : Endpoint) : ofPath? endpoint.path = some endpoint := by
  cases endpoint <;> simp [ofPath?, all, path]

end Endpoint

/-- The status under which a refusal of the discoverer is reported. -/
def statusOf : DiscoveryError → Status
  | .directory (.duplicateId _) => .conflict
  | .lease (.alreadyHeld _) => .conflict
  | .lease (.notFound _) => .notFound
  | .unknownComponent _ => .notFound

end Service

open Service

namespace Discoverer

/-- The reply to an operation: what is made of its value, or the status of its error. -/
def replyTo {α : Type} (success : α → Reply) :
    Except DiscoveryError α × Discoverer → Reply × Discoverer
  | (.ok value, after) => (success value, after)
  | (.error error, after) => (.bare (statusOf error), after)

/-- The reply to a message that has to be read first. -/
def replyToMessage {α : Type} [Message α] (d : Discoverer) (body : String)
    (act : α → Reply × Discoverer) : Reply × Discoverer :=
  match (Message.ofWire body : Except MessageError α) with
  | .error _ => (.bare .badRequest, d)
  | .ok message => act message

/-- The reply of an endpoint to a text, and the discoverer after it. -/
def answer (d : Discoverer) (endpoint : Endpoint) (body : String) : Reply × Discoverer :=
  match endpoint with
  | .register => d.replyToMessage body fun registration =>
    replyTo (fun lease => .ofMessage (RegistrationReply.mk lease)) (d.register registration)
  | .heartbeat => d.replyToMessage body fun heartbeat =>
    replyTo (fun _ => .bare .ok) (d.heartbeat heartbeat)
  | .deregister => d.replyToMessage body fun deregistration =>
    replyTo (fun _ => .bare .ok) (d.deregister (Deregistration.index deregistration))
  | .query => d.replyToMessage body fun request =>
    (.ofMessage (d.query (QueryRequest.query request)), d)
  | .leases => (⟨.ok, some .json, Listing.text d.leaseStatuses⟩, d)

end Discoverer

end Discovery
