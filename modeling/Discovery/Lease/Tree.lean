import Discovery.Calendar.Read
import Discovery.Calendar.Stamp
import Discovery.Lease.Basic
import Discovery.Message.Basic

/-!
# Leases as trees

A lease is a `lease` with its fields as attributes. It is read from the first tree of that name, at
any depth.
-/

namespace Discovery.Lease

def toTree (lease : Lease) : Tree :=
  let tree := ((Tree.named "lease").setAttribute "componentIndex"
    (toString lease.index.toNat)).setAttribute "durationSlots" (toString lease.slots.toNat)
  match lease.start with
  | none => tree
  | some start => tree.setAttribute "startDate" start.toMessage

/-- Reads the start date of a lease. -/
def startOfTree (tree : Tree) : Except MessageError (Option Instant) :=
  match tree.attribute? "startDate" with
  | none => .ok none
  | some raw =>
    match Instant.ofMessage? raw with
    | none => .error (.invalid "startDate" raw)
    | some start => .ok (some start)

def ofTree (tree : Tree) : Except MessageError Lease :=
  match tree.find? "lease" with
  | none => .error (.missing "lease")
  | some tree => do
    let index ← Message.readAttribute ComponentIndex.read "componentIndex" tree
    let slots ← Message.readAttribute Text.readUInt32 "durationSlots" tree
    let start ← startOfTree tree
    return ⟨index, start, slots⟩

end Discovery.Lease
