import Discovery.Message.Registration
import Discovery.Proofs.Message.Fields

/-!
# Registrations over the wire

What becomes of a registration that is sent: whether it can be written depends on the characters of its texts
alone, and what the receiver reads has every text trimmed, the entries of lists that were blank left out, and
the numbers unchanged. No text is taken for markup, so that none reaches into another field.

* `Registration.obstacle?_toTree`: what keeps a registration from being written;
* `Registration.ofTree_toTree`: what is read from the tree of a registration;
* `Registration.ofTree_norm`: what is read from the tree that the receiver decodes;
* `Registration.wire_exact`: both together.
-/

namespace Discovery

open Markup

namespace Registration

/-! ## The tree of a registration -/

/-- The parts that hold the fields, in the order in which they are written, with one for the type or without. -/
def fieldParts (r : Registration) (typed : Bool) : List Tree :=
  [.ofText "id" r.id] ++ [.ofText "hostname" r.hostname] ++ [.ofText "port" (toString r.port.toNat)] ++
    (if typed then [.ofText "type" r.type] else []) ++
    [Message.listTree "attributes" "attribute" r.attributes] ++
    [Message.listTree "callbacks" "callback" r.callbacks] ++
    [Message.listTree "services" "service" r.services]

/-- The tree that holds the fields, with a part for the type or without. -/
def fieldTree (r : Registration) (typed : Bool) : Tree :=
  Message.setOptionalAttribute (.ofParts "registration" .empty (r.fieldParts typed)) "leaseSlots" r.slots

/-- The tree of a registration has a part for the type if there is one. -/
theorem toTree_eq_fieldTree (r : Registration) : r.toTree = r.fieldTree (!r.type.isEmpty) := by
  rw [toTree, fieldTree, fieldParts, Tree.named_eq_ofParts]
  cases r.type.isEmpty with
  | true => simp [Tree.pushChild_ofParts]
  | false => simp [Tree.pushChild_ofParts]

/-! ## Writing -/

/-- The texts of a registration, in the order in which they are written. -/
def texts (r : Registration) : List String :=
  [r.id] ++ [r.hostname] ++ [r.type] ++ r.attributes ++ r.callbacks ++ r.services

/-- The first character in the texts that may not stand in a document. -/
def invalidChar? (r : Registration) : Option Char :=
  (r.texts.flatMap String.toList).find? fun c => !isMarkupChar c

theorem findSome?_texts (r : Registration) :
    r.texts.findSome? Markup.invalidChar? = r.invalidChar?.map .invalidChar := by
  rw [invalidChar?, List.find?_flatMap, List.map_findSome?]
  rfl

/-- A registration cannot be written if and only if a character of its texts may not stand in a document, and then
the first one is the reason. -/
theorem obstacle?_toTree (r : Registration) : r.toTree.obstacle? = r.invalidChar?.map .invalidChar := by
  have number : Markup.invalidChar? (toString r.port.toNat) = none :=
    Tree.invalidChar?_eq_none_iff.mpr (isMarkupText_toString _)
  have typed : List.findSome? Tree.obstacle? (if !r.type.isEmpty then [.ofText "type" r.type] else []) =
      Markup.invalidChar? r.type := by
    split
    · rw [List.findSome?_singleton, Tree.obstacle?_ofText (by decide)]
    · next empty =>
      -- a type that is empty is not written, and there is nothing in it that could not be
      have nothing : r.type = "" := String.isEmpty_iff.mp (by simpa using empty)
      rw [nothing]
      rfl
  rw [toTree_eq_fieldTree, fieldTree, Message.obstacle?_setOptionalAttribute (by decide), ← findSome?_texts, fieldParts,
    texts]
  simp only [List.findSome?_append, List.findSome?_singleton, typed, number, Option.or_none,
    Tree.obstacle?_ofText (show "id" ≠ "" by decide), Tree.obstacle?_ofText (show "hostname" ≠ "" by decide),
    Tree.obstacle?_ofText (show "port" ≠ "" by decide),
    Message.obstacle?_listTree (show "attributes" ≠ "" by decide) (show "attribute" ≠ "" by decide),
    Message.obstacle?_listTree (show "callbacks" ≠ "" by decide) (show "callback" ≠ "" by decide),
    Message.obstacle?_listTree (show "services" ≠ "" by decide) (show "service" ≠ "" by decide)]

theorem isMarkupText_of_mem_texts {r : Registration} (valid : r.invalidChar? = none) :
    ∀ words ∈ r.texts, IsMarkupText words := by
  intro words mem c here
  have accepted := List.find?_eq_none.mp valid c (List.mem_flatMap.mpr ⟨words, mem, here⟩)
  simpa using accepted

/-- What can be written is a writable tree. -/
theorem toTree_writable {r : Registration} (valid : r.invalidChar? = none) : r.toTree.Writable := by
  have markup := isMarkupText_of_mem_texts valid
  simp only [texts, List.forall_mem_append, List.forall_mem_singleton] at markup
  obtain ⟨⟨⟨⟨⟨id, hostname⟩, type⟩, attributes⟩, callbacks⟩, services⟩ := markup
  rw [toTree_eq_fieldTree]
  apply Message.setOptionalAttribute_writable _ (by decide)
  -- the attribute is a number; below the root stand the parts alone
  apply Tree.Writable.ofParts (by decide) writableAttributes_empty
  simp only [fieldParts, List.forall_mem_append, List.forall_mem_singleton]
  refine ⟨⟨⟨⟨⟨⟨?_, ?_⟩, ?_⟩, ?_⟩, ?_⟩, ?_⟩, ?_⟩
  · exact .ofText (by decide) id
  · exact .ofText (by decide) hostname
  · exact .ofText (by decide) (isMarkupText_toString _)
  · intro part mem
    split at mem
    · cases List.mem_singleton.mp mem
      exact .ofText (by decide) type
    · cases mem
  · exact Message.listTree_writable (by decide) (by decide) attributes
  · exact Message.listTree_writable (by decide) (by decide) callbacks
  · exact Message.listTree_writable (by decide) (by decide) services

/-! ## Reading -/

/-- The entries of a list with the white space around each dropped, without those of which nothing is left. -/
def filledTexts (values : List String) : List String :=
  (values.map Text.trim).filter (· ≠ "")

/-- The registration that is read when this one was sent. -/
def received (r : Registration) : Registration where
  id := Text.trim r.id
  hostname := Text.trim r.hostname
  port := r.port
  type := Text.trim r.type
  attributes := filledTexts r.attributes
  callbacks := filledTexts r.callbacks
  services := filledTexts r.services
  slots := r.slots

/-- The parts are found by their names, whether there is one for the type or not. -/
theorem child?_fieldTree (r : Registration) (typed : Bool) :
    (r.fieldTree typed).child? "id" = some (.ofText "id" r.id) ∧
      (r.fieldTree typed).child? "hostname" = some (.ofText "hostname" r.hostname) ∧
      (r.fieldTree typed).child? "port" = some (.ofText "port" (toString r.port.toNat)) ∧
      (r.fieldTree typed).child? "type" = (if typed then some (.ofText "type" r.type) else none) ∧
      (r.fieldTree typed).child? "attributes" =
        some (Message.listTree "attributes" "attribute" r.attributes) ∧
      (r.fieldTree typed).child? "callbacks" = some (Message.listTree "callbacks" "callback" r.callbacks) ∧
      (r.fieldTree typed).child? "services" = some (Message.listTree "services" "service" r.services) := by
  simp only [fieldTree, Tree.child?, Message.children_setOptionalAttribute, Tree.children_ofParts, fieldParts]
  cases typed <;> simp

/-- The registration without the empty entries of its lists. -/
def withoutEmpty (r : Registration) : Registration :=
  { r with
    attributes := r.attributes.filter (· ≠ "")
    callbacks := r.callbacks.filter (· ≠ "")
    services := r.services.filter (· ≠ "") }

/-- From the tree the registration is read without the empty entries of its lists, if it has an id. -/
theorem ofTree_fieldTree (r : Registration) {typed : Bool} (untyped : typed = false → r.type = "") :
    ofTree (r.fieldTree typed) = if r.id = "" then .error (.missing "id") else .ok r.withoutEmpty := by
  obtain ⟨id, hostname, port, type, attributes, callbacks, services⟩ := r.child?_fieldTree typed
  have root : (r.fieldTree typed).name = "registration" := by
    rw [fieldTree, Message.name_setOptionalAttribute, Tree.name_ofParts]
  have idRead : Message.partText? (r.fieldTree typed) "id" = if r.id = "" then none else some r.id := by
    rw [Message.partText?, id, Option.bind_some, Tree.leadingText?_ofText]
  have hostnameRead : (Message.partText? (r.fieldTree typed) "hostname").getD "" = r.hostname := by
    rw [Message.partText?, hostname, Option.bind_some, Tree.getD_leadingText?_ofText]
  have portRead : portOfTree (r.fieldTree typed) = .ok r.port := by
    rw [portOfTree, Message.partText?, port, Option.bind_some, Tree.leadingText?_ofText,
      if_neg (Text.toString_ne_empty _)]
    simp only [Text.readUInt16_toString]
    rfl
  have typeRead : (Message.partText? (r.fieldTree typed) "type").getD "" = r.type := by
    rw [Message.partText?, type]
    -- a type that was not written is read as one that is empty
    cases typed with
    | false => exact (untyped rfl).symm
    | true => exact Tree.getD_leadingText?_ofText
  have slotsRead : Message.readOptionalAttribute Text.readUInt32 "leaseSlots" (r.fieldTree typed) = .ok r.slots :=
    Message.readOptionalAttribute_set rfl
  have attributesRead : Message.listTexts (r.fieldTree typed) "attributes" "attribute" =
      r.attributes.filter (· ≠ "") := Message.listTexts_of_child? attributes
  have callbacksRead : Message.listTexts (r.fieldTree typed) "callbacks" "callback" =
      r.callbacks.filter (· ≠ "") := Message.listTexts_of_child? callbacks
  have servicesRead : Message.listTexts (r.fieldTree typed) "services" "service" =
      r.services.filter (· ≠ "") := Message.listTexts_of_child? services
  rw [ofTree, Message.expectRoot_of_name root, idRead, hostnameRead, portRead, typeRead, slotsRead, attributesRead,
    callbacksRead, servicesRead]
  by_cases empty : r.id = ""
  · rw [if_pos empty, if_pos empty]
    rfl
  · rw [if_neg empty, if_neg empty]
    rfl

/-- What is read from the tree of a registration. -/
theorem ofTree_toTree (r : Registration) :
    ofTree r.toTree = if r.id = "" then .error (.missing "id") else .ok r.withoutEmpty := by
  rw [toTree_eq_fieldTree]
  apply ofTree_fieldTree
  intro untyped
  exact String.isEmpty_iff.mp (by simpa using untyped)

def trimmed (r : Registration) : Registration where
  id := Text.trim r.id
  hostname := Text.trim r.hostname
  port := r.port
  type := Text.trim r.type
  attributes := r.attributes.map Text.trim
  callbacks := r.callbacks.map Text.trim
  services := r.services.map Text.trim
  slots := r.slots

/-- The normal form holds the trimmed texts. A type that is white space alone leaves an empty element. -/
theorem norm_toTree (r : Registration) : r.toTree.norm = r.trimmed.fieldTree (!r.type.isEmpty) := by
  have port : (Tree.ofText "port" (toString r.port.toNat)).norm = .ofText "port" (toString r.port.toNat) := by
    rw [Tree.norm_ofText, Text.trim_toString]
  have typed : List.map Tree.norm (if !r.type.isEmpty then [.ofText "type" r.type] else []) =
      if !r.type.isEmpty then [.ofText "type" (Text.trim r.type)] else [] := by
    split
    · rw [List.map_singleton, Tree.norm_ofText]
    · rfl
  rw [toTree_eq_fieldTree, fieldTree, Message.norm_setOptionalAttribute, Tree.norm_ofParts, fieldTree, fieldParts,
    fieldParts]
  simp only [List.map_append, List.map_singleton, Tree.norm_ofText, Message.norm_listTree, port, typed, trimmed]

/-- What is read from the tree that the receiver decodes. -/
theorem ofTree_norm (r : Registration) :
    ofTree r.toTree.norm = if Text.trim r.id = "" then .error (.missing "id") else .ok r.received := by
  rw [norm_toTree]
  apply ofTree_fieldTree
  intro untyped
  have empty : r.type = "" := String.isEmpty_iff.mp (by simpa using untyped)
  rw [trimmed, empty]
  rfl

/-! ## Over the wire -/

/-- A registration in whose texts a character may not stand in a document is refused with the first of them.
Every other registration has a text on the wire, from which a registration is read unless its id is white
space alone: the same registration with its texts trimmed, the blank entries of its lists left out, and its
numbers unchanged. -/
theorem wire_exact (r : Registration) :
    (∀ c, r.invalidChar? = some c → Message.toWire r = .error (.encode (.invalidChar c))) ∧
      (r.invalidChar? = none → ∃ text, Message.toWire r = .ok text ∧
        (Text.trim r.id = "" →
          (Message.ofWire text : Except MessageError Registration) = .error (.missing "id")) ∧
        (Text.trim r.id ≠ "" → Message.ofWire text = .ok r.received)) := by
  constructor
  · intro c found
    have obstacle : r.toTree.obstacle? = some (.invalidChar c) := by
      rw [obstacle?_toTree, found, Option.map_some]
    show (Tree.encodeDocument r.toTree).mapError MessageError.encode = _
    rw [Tree.encodeDocument, Tree.encode, obstacle]
    rfl
  · intro valid
    have writable := toTree_writable valid
    obtain ⟨text, written⟩ : ∃ text, r.toTree.encodeDocument = .ok text := ⟨_, writable.encodeDocument_eq⟩
    have sent : Message.toWire r = .ok text := by
      show (Tree.encodeDocument r.toTree).mapError MessageError.encode = _
      rw [written]
      rfl
    -- reading gives the normal form of the tree, from which the registration is read
    have read : Message.ofWire text =
        if Text.trim r.id = "" then .error (.missing "id") else .ok r.received := by
      rw [Message.ofWire, writable.decode_written (.inr written)]
      exact r.ofTree_norm
    refine ⟨text, sent, ?_, ?_⟩
    · intro empty
      rw [read, if_pos empty]
    · intro filled
      rw [read, if_neg filled]

def hostile : Registration where
  id := "<id>&amp;</id>"
  hostname := " ]]><!-- "
  port := 8080
  type := "\t"
  attributes := [" a ", "", "</attributes>", "a"]
  callbacks := []
  services := ["\""]
  slots := some 7

/-- It is received with its texts trimmed; with a character that may not stand in a document it is not sent. -/
theorem wire_exact_hostile :
    hostile.invalidChar? = none ∧ Text.trim hostile.id ≠ "" ∧
      (∃ text, Message.toWire hostile = .ok text ∧ Message.ofWire text = .ok (
        { hostile with
          hostname := "]]><!--"
          type := ""
          attributes := ["a", "</attributes>", "a"] } : Registration)) ∧
      Message.toWire { hostile with hostname := "\x00", services := ["\x01"] } =
        .error (.encode (.invalidChar '\x00')) := by
  have valid : hostile.invalidChar? = none := by decide +kernel
  have filled : Text.trim hostile.id ≠ "" := by decide +kernel
  obtain ⟨text, sent, -, read⟩ := hostile.wire_exact.2 valid
  refine ⟨valid, filled, ⟨text, sent, ?_⟩, ?_⟩
  · rw [read filled]
    decide +kernel
  · exact (wire_exact { hostile with hostname := "\x00", services := ["\x01"] }).1 '\x00' (by decide +kernel)

end Registration

end Discovery
