import Discovery.Message.Renewal
import Discovery.Proofs.Message.Fields
import Discovery.Proofs.Text.Encoded
import Mathlib.Tactic.SplitIfs

/-!
# Heartbeats and deregistrations over the wire

Both are made of numbers alone, so that every one of them has a text on the wire and is read from it as it was.
The text is short, because the numbers are words.

* `Heartbeat.ofTree_toTree`, `Deregistration.ofTree_toTree`: they are read from their trees;
* `Heartbeat.exists_wire`: a heartbeat arrives as it was sent.
-/

namespace Discovery

open Markup

/-! ## The length of attributes -/

namespace Tree

theorem length_escapeInValue_le (c : Char) : (escapeInValue c).length ≤ 6 := by
  unfold escapeInValue escapeInText
  split_ifs <;> simp

/-- A word takes little room as an attribute. -/
theorem length_renderAttribute_le (key : String) (n : UInt32) :
    (renderAttribute key (toString n.toNat)).length ≤ key.toList.length + 64 := by
  have digits := Text.length_toString_le n
  have written := Text.length_flatMap_le length_escapeInValue_le (toString n.toNat).toList
  simp only [renderAttribute, List.length_append, List.length_cons, List.length_nil]
  omega

/-- An attribute that is set adds its own length at most. -/
theorem length_renderAttributes_insert_le (attributes : Attributes) (key value : String) :
    (renderAttributes (attributes.insert key value)).length ≤
      (renderAttribute key value).length + (renderAttributes attributes).length := by
  have entered : ∀ entries : List (String × String),
      ((SortedMap.insertEntry key value entries).flatMap fun entry => renderAttribute entry.1 entry.2).length ≤
        (renderAttribute key value).length +
          (entries.flatMap fun entry => renderAttribute entry.1 entry.2).length := by
    intro entries
    -- along the entries, as `insertEntry` looks for the place
    induction entries with
    | nil => exact Nat.le_of_eq (by simp [SortedMap.insertEntry])
    | cons first rest ih =>
      rw [SortedMap.insertEntry]
      split_ifs
      all_goals
        simp only [List.flatMap_cons, List.length_append] at *
        omega
  exact entered attributes.entries

end Tree

/-! ## Heartbeats -/

namespace Heartbeat

/-- The tree of a heartbeat is read as the heartbeat. -/
theorem ofTree_toTree (h : Heartbeat) : ofTree h.toTree = .ok h := by
  have root : h.toTree.name = "heartbeat" := by
    rw [toTree, Message.name_setOptionalAttribute]
    rfl
  have written : h.toTree.attribute? "componentIndex" = some (toString h.index.toNat) := by
    rw [toTree, Message.attribute?_setOptionalAttribute (by decide), Tree.attribute?_setAttribute, if_pos rfl]
  have index : Message.readAttribute ComponentIndex.read "componentIndex" h.toTree = .ok h.index :=
    Message.readIndex_of_attribute? written
  have slots : Message.readOptionalAttribute Text.readUInt32 "leaseSlots" h.toTree = .ok h.slots :=
    Message.readOptionalAttribute_set rfl
  rw [ofTree, Message.expectRoot_of_name root, index, slots]
  rfl

theorem norm_toTree (h : Heartbeat) : h.toTree.norm = h.toTree := by
  rw [toTree, Message.norm_setOptionalAttribute]
  rfl

theorem toTree_writable (h : Heartbeat) : h.toTree.Writable :=
  Message.setOptionalAttribute_writable
    ((Tree.Writable.named (by decide)).setAttribute (by decide) (isMarkupText_toString _)) (by decide)

/-- The text of a heartbeat is short. -/
theorem length_render_toTree_le (h : Heartbeat) : h.toTree.render.length ≤ 200 := by
  -- an element without contents takes its name and the marks around it besides its attributes
  have tag : ∀ attributes : Attributes,
      (Tree.node "heartbeat" attributes []).render.length = 13 + (Tree.renderAttributes attributes).length := by
    intro attributes
    simp only [Tree.render, List.length_append, List.length_cons, List.length_nil]
    have name : "heartbeat".toList.length = 9 := rfl
    omega
  have index := Tree.length_renderAttribute_le "componentIndex" h.index
  have first := Tree.length_renderAttributes_insert_le .empty "componentIndex" (toString h.index.toNat)
  have keys : "componentIndex".toList.length = 14 ∧ "leaseSlots".toList.length = 10 := ⟨rfl, rfl⟩
  have none : (Tree.renderAttributes .empty).length = 0 := rfl
  rw [toTree]
  cases h.slots with
  | none =>
    show (Tree.node "heartbeat" (SortedMap.empty.insert _ _) []).render.length ≤ _
    rw [tag]
    omega
  | some n =>
    have slots := Tree.length_renderAttribute_le "leaseSlots" n
    have second := Tree.length_renderAttributes_insert_le
      (SortedMap.empty.insert "componentIndex" (toString h.index.toNat)) "leaseSlots" (toString n.toNat)
    show (Tree.node "heartbeat" ((SortedMap.empty.insert _ _).insert _ _) []).render.length ≤ _
    rw [tag]
    omega

/-- A heartbeat has a short text on the wire, from which it is read as it was. -/
theorem exists_wire (h : Heartbeat) : ∃ wire, Message.toWire h = .ok wire ∧ Message.ofWire wire = .ok h ∧
    wire.utf8ByteSize ≤ 1000 := by
  have writable : (Message.toTree h).Writable := h.toTree_writable
  obtain ⟨wire, sent, received⟩ := Message.exists_wire writable
  refine ⟨wire, sent, ?_, ?_⟩
  · rw [received]
    show ofTree h.toTree.norm = .ok h
    rw [norm_toTree, ofTree_toTree]
  · obtain ⟨element, encoded, rfl⟩ := Tree.encodeDocument_eq_ok_iff.mp (Message.toWire_eq_ok_iff.mp sent)
    obtain ⟨-, rfl⟩ := Tree.encode_eq_ok_iff.mp encoded
    have short := h.length_render_toTree_le
    -- no character takes more than four bytes
    have bytes := Text.utf8ByteSize_le (String.ofList h.toTree.render)
    have start : (header ++ "\n").utf8ByteSize = 22 := rfl
    rw [String.toList_ofList] at bytes
    rw [String.utf8ByteSize_append, start]
    show 22 + (String.ofList h.toTree.render).utf8ByteSize ≤ 1000
    omega

end Heartbeat

/-! ## Deregistrations -/

/-- The tree of a deregistration is read as the deregistration. -/
theorem Deregistration.ofTree_toTree (d : Deregistration) : ofTree d.toTree = .ok d := by
  have index : Message.readAttribute ComponentIndex.read "componentIndex" d.toTree = .ok d.index := by
    apply Message.readIndex_of_attribute?
    rw [toTree, Tree.attribute?_setAttribute, if_pos rfl]
  have root : d.toTree.name = "deregistration" := rfl
  rw [ofTree, Message.expectRoot_of_name root, index]
  rfl

end Discovery
