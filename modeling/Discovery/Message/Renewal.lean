import Discovery.Component.Basic
import Discovery.Message.Basic

/-!
# Heartbeats and deregistrations

With a heartbeat a component asks for its lease to begin anew, with another number of slots if it
names one. With a deregistration it takes its leave.
-/

namespace Discovery

/-- A request to renew a lease. -/
structure Heartbeat where
  index : ComponentIndex
  /-- The number of slots that it asks for, if it does. -/
  slots : Option UInt32
deriving Repr, DecidableEq

namespace Heartbeat

def toTree (h : Heartbeat) : Tree :=
  Message.setOptionalAttribute
    ((Tree.named "heartbeat").setAttribute "componentIndex" (toString h.index.toNat))
    "leaseSlots" h.slots

def ofTree (tree : Tree) : Except MessageError Heartbeat := do
  Message.expectRoot "heartbeat" tree
  let index ← Message.readAttribute ComponentIndex.read "componentIndex" tree
  let slots ← Message.readOptionalAttribute Text.readUInt32 "leaseSlots" tree
  return ⟨index, slots⟩

end Heartbeat

instance : Message Heartbeat := ⟨Heartbeat.toTree, Heartbeat.ofTree⟩

/-- A request to be forgotten. -/
structure Deregistration where
  index : ComponentIndex
deriving Repr, DecidableEq

namespace Deregistration

def toTree (d : Deregistration) : Tree :=
  (Tree.named "deregistration").setAttribute "componentIndex" (toString d.index.toNat)

def ofTree (tree : Tree) : Except MessageError Deregistration := do
  Message.expectRoot "deregistration" tree
  let index ← Message.readAttribute ComponentIndex.read "componentIndex" tree
  return ⟨index⟩

end Deregistration

instance : Message Deregistration := ⟨Deregistration.toTree, Deregistration.ofTree⟩

end Discovery
