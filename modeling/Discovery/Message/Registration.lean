import Discovery.Lease.Tree

/-!
# Registrations

With a registration a component announces itself: what it is, and for how many time slots it asks.
The reply holds the lease that it was granted.
-/

namespace Discovery

/-- A component's announcement of itself. -/
structure Registration where
  id : String
  hostname : String
  port : UInt16
  type : String
  attributes : List String
  callbacks : List String
  services : List String
  /-- The number of slots that it asks for, if it does. -/
  slots : Option UInt32
deriving Repr, DecidableEq

namespace Registration

/-- The component that registers under an index. -/
def component (r : Registration) (index : ComponentIndex) : Component where
  index := index
  id := r.id
  hostname := r.hostname
  port := r.port
  type := r.type
  attributes := r.attributes
  callbacks := r.callbacks
  services := r.services

/-- The registration as a tree. An empty type is left out. -/
def toTree (r : Registration) : Tree :=
  let identity := (((Tree.named "registration").pushChild (Tree.ofText "id" r.id)).pushChild
    (Tree.ofText "hostname" r.hostname)).pushChild
    (Tree.ofText "port" (toString r.port.toNat))
  let typed :=
    if r.type.isEmpty then identity else identity.pushChild (Tree.ofText "type" r.type)
  let listed := ((typed.pushChild (Message.listTree "attributes" "attribute" r.attributes)).pushChild
    (Message.listTree "callbacks" "callback" r.callbacks)).pushChild
    (Message.listTree "services" "service" r.services)
  Message.setOptionalAttribute listed "leaseSlots" r.slots

/-- Reads the port, which may have no white space around it. -/
def portOfTree (tree : Tree) : Except MessageError UInt16 :=
  match Message.partText? tree "port" with
  | none => .error (.missing "port")
  | some raw => (Text.readUInt16 raw).mapError fun _ => .invalid "port" raw

def ofTree (tree : Tree) : Except MessageError Registration := do
  Message.expectRoot "registration" tree
  let id ← match Message.partText? tree "id" with
    | none => .error (.missing "id")
    | some id => .ok id
  -- the id is missed before the port is read, and the port before the slots
  let port ← portOfTree tree
  let slots ← Message.readOptionalAttribute Text.readUInt32 "leaseSlots" tree
  return {
    id := id
    hostname := (Message.partText? tree "hostname").getD ""
    port := port
    type := (Message.partText? tree "type").getD ""
    attributes := Message.listTexts tree "attributes" "attribute"
    callbacks := Message.listTexts tree "callbacks" "callback"
    services := Message.listTexts tree "services" "service"
    slots := slots }

end Registration

instance : Message Registration := ⟨Registration.toTree, Registration.ofTree⟩

/-- The answer to a registration. -/
structure RegistrationReply where
  lease : Lease
deriving Repr, DecidableEq

namespace RegistrationReply

/-- The reply as a tree. -/
def toTree (reply : RegistrationReply) : Tree :=
  ((Tree.named "registrationReply").setAttribute "componentIndex"
    (toString reply.lease.index.toNat)).pushChild reply.lease.toTree

def ofTree (tree : Tree) : Except MessageError RegistrationReply := do
  Message.expectRoot "registrationReply" tree
  match tree.child? "lease" with
  | none => .error (.missing "lease")
  | some tree => (Lease.ofTree tree).map RegistrationReply.mk

end RegistrationReply

instance : Message RegistrationReply := ⟨RegistrationReply.toTree, RegistrationReply.ofTree⟩

end Discovery
