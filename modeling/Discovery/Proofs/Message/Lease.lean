import Discovery.Proofs.Calendar.Written
import Discovery.Proofs.Message.Fields

/-!
# Leases over the wire

A lease is read from its tree as it was, if the date on which it began is one that messages can say; its index
and its number of slots are always read back. The reply that grants a lease carries the tree of the lease
unchanged, as there is no text in it.

* `ofTree_toTree`: what is read from the tree of a lease;
* `read_back`: leases that are read as they were, by themselves and in the reply that grants them.
-/

namespace Discovery

namespace Lease

variable {lease : Lease}

/-! ## The tree of a lease -/

@[simp] theorem name_toTree : lease.toTree.name = "lease" := by
  unfold toTree
  cases lease.start <;> rfl

/-- There is no text in the tree, so that it is in its normal form. -/
@[simp] theorem norm_toTree : lease.toTree.norm = lease.toTree := by
  unfold toTree
  cases lease.start <;> rfl

/-- The tree holds the numbers, and the start date if there is one. -/
theorem attribute?_toTree (lease : Lease) :
    lease.toTree.attribute? "componentIndex" = some (toString lease.index.toNat) ∧
      lease.toTree.attribute? "durationSlots" = some (toString lease.slots.toNat) ∧
      lease.toTree.attribute? "startDate" = lease.start.map Instant.toMessage := by
  unfold toTree
  cases lease.start with
  | none => simp [Tree.attribute?_setAttribute, Tree.attribute?_named]
  | some start => simp [Tree.attribute?_setAttribute]

/-! ## Reading it back -/

/-- From its tree a lease is read with its index and its slots, and with what its start date is read as. -/
theorem ofTree_toTree (lease : Lease) :
    ofTree lease.toTree = (startOfTree lease.toTree).map fun start => { lease with start := start } := by
  obtain ⟨index, slots, -⟩ := lease.attribute?_toTree
  have indexRead : Message.readAttribute ComponentIndex.read "componentIndex" lease.toTree = .ok lease.index :=
    Message.readIndex_of_attribute? index
  have slotsRead : Message.readAttribute Text.readUInt32 "durationSlots" lease.toTree = .ok lease.slots :=
    Message.readNumber_of_attribute? slots
  rw [ofTree, Tree.find?_of_name (by decide) name_toTree]
  simp only [indexRead, slotsRead]
  cases startOfTree lease.toTree <;> rfl

/-- A start date that messages can say is read back. -/
theorem startOfTree_toTree (sendable : ∀ start, lease.start = some start → start.IsSendable) :
    startOfTree lease.toTree = .ok lease.start := by
  obtain ⟨-, -, date⟩ := lease.attribute?_toTree
  rw [startOfTree, date]
  cases began : lease.start with
  | none => rfl
  | some start =>
    simp only [Option.map_some, Instant.ofMessage?_toMessage (sendable start began)]

end Lease

/-! ## Over the wire -/

namespace RegistrationReply

variable {reply : RegistrationReply}

theorem toTree_eq (reply : RegistrationReply) : reply.toTree =
    .ofParts "registrationReply" (SortedMap.empty.insert "componentIndex" (toString reply.lease.index.toNat))
      [reply.lease.toTree] := rfl

theorem norm_toTree (reply : RegistrationReply) : reply.toTree.norm = reply.toTree := by
  rw [toTree_eq, Tree.norm_ofParts, List.map_singleton, Lease.norm_toTree]

/-- The reply is read from its tree if its lease is read from the tree of the lease. -/
theorem ofTree_toTree (reply : RegistrationReply) :
    ofTree reply.toTree = (Lease.ofTree reply.lease.toTree).map RegistrationReply.mk := by
  have root : reply.toTree.name = "registrationReply" := by rw [toTree_eq, Tree.name_ofParts]
  have lease : reply.toTree.child? "lease" = some reply.lease.toTree := by
    rw [Tree.child?, toTree_eq, Tree.children_ofParts, List.find?_cons_of_pos]
    exact decide_eq_true Lease.name_toTree
  rw [ofTree, Message.expectRoot_of_name root, lease]
  rfl

end RegistrationReply

namespace Lease

/-- A lease without a start date, or with one that messages can say, is read from its tree as it was; and the reply
that grants it has a text on the wire, from which the same reply is read. -/
theorem read_back (lease : Lease) (sendable : ∀ start, lease.start = some start → start.IsSendable) :
    ofTree lease.toTree = .ok lease ∧
      ∃ text, Message.toWire (RegistrationReply.mk lease) = .ok text ∧
        Message.ofWire text = .ok (RegistrationReply.mk lease) := by
  have read : ofTree lease.toTree = .ok lease := by
    rw [ofTree_toTree, startOfTree_toTree sendable]
    rfl
  have writable : (Message.toTree (RegistrationReply.mk lease)).Writable :=
    RegistrationReply.toTree_writable ⟨lease⟩
  obtain ⟨text, sent, received⟩ := Message.exists_wire writable
  refine ⟨read, text, sent, ?_⟩
  rw [received]
  show RegistrationReply.ofTree (RegistrationReply.mk lease).toTree.norm = _
  rw [RegistrationReply.norm_toTree, RegistrationReply.ofTree_toTree, read]
  rfl

/-- A lease with as many slots as there can be, which begins half a second into the leap second at the end of the
year 1972. -/
def leaping : Lease := ⟨4294967295, some ⟨94694399, 1500000000⟩, 4294967295⟩

/-- The reply that grants it, on the wire. -/
def leapingText : String :=
  "<?xml version=\"1.0\"?>\n" ++
    "<registrationReply componentIndex=\"4294967295\"><lease componentIndex=\"4294967295\" " ++
    "durationSlots=\"4294967295\" startDate=\"1972-12-31T23:59:60.500+00:00\"/>\n</registrationReply>\n"

theorem read_back_leaping :
    ofTree leaping.toTree = .ok leaping ∧ Message.toWire (RegistrationReply.mk leaping) = .ok leapingText ∧
      Message.ofWire leapingText = .ok (RegistrationReply.mk leaping) := by
  obtain ⟨read, text, sent, received⟩ := leaping.read_back (by
    intro start began
    cases began
    exact ⟨by decide, by decide, .inr ⟨by decide, by decide⟩⟩)
  have written : Message.toWire (RegistrationReply.mk leaping) = .ok leapingText := by decide +kernel
  obtain rfl : leapingText = text := Except.ok.inj (written.symm.trans sent)
  exact ⟨read, written, received⟩

end Lease

end Discovery
