import Discovery.Client.Inspect
import Discovery.Query.Predicate
import Discovery.Service.Router

/-!
# Exchanges with the service

The client sends a message to an endpoint and reads the reply. The service is at an address, behind
which its endpoints are looked for.

## What is assumed

Requests are sent by a package for HTTP, of which its documented behaviour is assumed: a request reaches the
service once and as it was made, the reply comes back as it was given, a status is a success from 200 to
299, and the words for a listing that cannot be read are the package's own. What can go wrong between the
two, with names, connections and time limits, is outside of what is described here.
-/

namespace Discovery.Client

open Service

/-- Why an exchange does not lead to an answer. -/
inductive Failure where
  /-- The service replies with another status than success. -/
  | refused (status : Status)
  /-- The predicates of a search are no query. -/
  | predicate (error : Predicate.PredicateError)
  /-- A message cannot be written, or its reply cannot be read. -/
  | wire (error : MessageError)
  /-- A listing cannot be read. -/
  | unreadableListing
deriving Repr, DecidableEq

def Failure.message : Failure → String
  | .refused status => status.text
  | .predicate error => error.message
  | .wire error => error.message
  | .unreadableListing => "error decoding response body"

def Failure.inspect : Failure → String
  | .refused status => status.text
  | .predicate error => Text.quoted error.message
  | .wire error => inspectMessage error
  | .unreadableListing => Text.quoted "error decoding response body"

/-- The address without the slashes that it ends with. -/
def trimSlashes (url : String) : String :=
  String.ofList ((url.toList.reverse.dropWhile (· = '/')).reverse)

/-- Where an endpoint of the service at an address is found: its path stands behind the address, where
a query or a fragment of the address swallows it. -/
def target (url : String) (endpoint : Endpoint) : String :=
  trimSlashes url ++ endpoint.path

/-- The text of a successful reply. -/
def textOf (reply : Reply) : Except Failure String :=
  if reply.status.isSuccess then .ok reply.body else .error (.refused reply.status)

/-- Sends a message to an endpoint: the text of the reply, and the discoverer after it. -/
def send {α : Type} [Message α] (url : String) (endpoint : Endpoint) (message : α)
    (d : Discoverer) : Except Failure String × Discoverer :=
  match Message.toWire message with
  | .error error => (.error (.wire error), d)
  | .ok wire =>
    let (reply, after) := d.serve (.ofText "POST" (target url endpoint) wire)
    (textOf reply, after)

/-- Reads a text as a message. -/
def readReply {α : Type} [Message α] (text : Except Failure String) : Except Failure α :=
  match text with
  | .error failure => .error failure
  | .ok text => (Message.ofWire text).mapError .wire

/-- Registers a component: its lease, and the discoverer after it. -/
def register (url : String) (registration : Registration) (d : Discoverer) :
    Except Failure Lease × Discoverer :=
  let (text, after) := send url .register registration d
  ((readReply text).map RegistrationReply.lease, after)

/-- Looks for components: those that were found, and the discoverer after it. -/
def search (url : String) (query : Query) (d : Discoverer) :
    Except Failure (List Match) × Discoverer :=
  let (text, after) := send url .query (QueryRequest.mk query) d
  ((readReply text).map QueryReply.found, after)

/-- Asks for the listing of the leases, which is no message. -/
def listLeases (url : String) (d : Discoverer) : Except Failure (List LeaseStatus) × Discoverer :=
  let (reply, after) := d.serve (.ofText "GET" (target url .leases) "")
  match textOf reply with
  | .error failure => (.error failure, after)
  | .ok text =>
    match Listing.read? text with
    | none => (.error .unreadableListing, after)
    | some statuses => (.ok statuses, after)

end Discovery.Client
